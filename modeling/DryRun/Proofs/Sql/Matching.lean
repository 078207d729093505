import DryRun.Proofs.Sql.Headers
import Mathlib.Order.Bounds.Defs

/-!
# Words and the tokens that spell them

A phrase may be one token or several, and a token of blank text spells nothing. `Spelling` forgets how words
are shared out among tokens. `matchWords` reads the shortest run of tokens that spells the words it is given
(`matchWords_shortest`), and fails only where there is no such run (`not_spelling_of_matchWords`). `wordsEnd`
says the same with places in the whole list of tokens.
-/

namespace DryRun.Sql

/-! ## Spelling -/

/-- Tokens that spell `ws`: none of them is quoted, and their words one after the other are `ws`. -/
structure Spelling (ws : List Text) (ts : List Token) : Prop where
  unquoted : ∀ t ∈ ts, t.isQuoted = false
  words : ts.flatMap (·.spelled) = ws

instance (ws : List Text) (ts : List Token) : Decidable (Spelling ws ts) :=
  decidable_of_iff ((∀ t ∈ ts, t.isQuoted = false) ∧ ts.flatMap (·.spelled) = ws)
    ⟨fun h => ⟨h.1, h.2⟩, fun h => ⟨h.unquoted, h.words⟩⟩

theorem not_spelling_nil (w : Text) (ws : List Text) : ¬Spelling (w :: ws) [] := fun h => by
  cases h.words

/-- A run of tokens spells the words of its first token and then those of the others. -/
theorem spelling_cons {ws : List Text} {t : Token} {ts : List Token} :
    Spelling ws (t :: ts) ↔
      t.isQuoted = false ∧ ∃ pending, ws = t.spelled ++ pending ∧ Spelling pending ts := by
  constructor
  · rintro ⟨hq, hw⟩
    obtain ⟨ht, hts⟩ := List.forall_mem_cons.1 hq
    exact ⟨ht, _, hw.symm, hts, rfl⟩
  · rintro ⟨ht, pending, rfl, hts, rfl⟩
    exact ⟨List.forall_mem_cons.2 ⟨ht, hts⟩, rfl⟩

theorem isPrefixOf?_append (vs r : List Text) : vs.isPrefixOf? (vs ++ r) = some r := by
  induction vs with
  | nil => rfl
  | cons v vs ih => rw [List.cons_append, isPrefixOf?_cons, if_pos (beq_self_eq_true v), ih]

/-! ## The shortest run -/

/-- What is read is a run of tokens that spells the words, and no shorter one does. -/
theorem matchWords_shortest {ws : List Text} {ts r : List Token} (h : matchWords ws ts = some r) :
    ∃ k ≤ ts.length, r = ts.drop k ∧ Spelling ws (ts.take k) ∧
      ∀ m, Spelling ws (ts.take m) → k ≤ m := by
  fun_induction matchWords ws ts with
  | case1 ts =>
    cases h
    exact ⟨0, Nat.zero_le _, rfl, ⟨by simp, rfl⟩, fun m _ => Nat.zero_le m⟩
  | case2 | case3 | case5 => cases h
  | case4 w ws t ts hq pending hp ih =>
    have hsplit := eq_append_of_isPrefixOf? hp
    obtain ⟨k, hk, rfl, hspell, hleast⟩ := ih h
    refine ⟨k + 1, Nat.succ_le_succ hk, rfl, spelling_cons.2 ⟨by simpa using hq, pending, hsplit, hspell⟩, ?_⟩
    intro m hm
    cases m with
    | zero => exact absurd hm (not_spelling_nil w ws)
    | succ m =>
      obtain ⟨-, rest, hrest, hm⟩ := spelling_cons.1 hm
      rw [hsplit] at hrest
      rw [← List.append_cancel_left hrest] at hm
      exact Nat.succ_le_succ (hleast m hm)

/-- Where nothing is read, no run of tokens spells the words. -/
theorem not_spelling_of_matchWords {ws : List Text} {ts : List Token} (h : matchWords ws ts = none) (m : Nat) :
    ¬Spelling ws (ts.take m) := by
  fun_induction matchWords ws ts generalizing m with
  | case1 => cases h
  | case2 w ws =>
    rw [List.take_nil]
    exact not_spelling_nil w ws
  | case3 w ws t ts hq =>
    intro hm
    cases m with
    | zero => exact not_spelling_nil w ws hm
    | succ m =>
      rw [(spelling_cons.1 hm).1] at hq
      cases hq
  | case4 w ws t ts hq pending hp ih =>
    intro hm
    cases m with
    | zero => exact not_spelling_nil w ws hm
    | succ m =>
      obtain ⟨-, rest, hrest, hm⟩ := spelling_cons.1 hm
      rw [eq_append_of_isPrefixOf? hp] at hrest
      rw [← List.append_cancel_left hrest] at hm
      exact ih h m hm
  | case5 w ws t ts hq hp =>
    intro hm
    cases m with
    | zero => exact not_spelling_nil w ws hm
    | succ m =>
      obtain ⟨-, rest, hrest, -⟩ := spelling_cons.1 hm
      rw [hrest, isPrefixOf?_append] at hp
      cases hp

/-! ## Places -/

/-- The place just past the words `ws`, if the tokens from place `start` on begin with them. -/
def wordsEnd (ws : List Text) (tokens : List Token) (start : Nat) : Option Nat :=
  (matchWords ws (tokens.drop start)).map fun rest => start + ((tokens.drop start).length - rest.length)

/-- The places up to which the tokens from `start` on spell `ws`. -/
def spellingEnds (ws : List Text) (tokens : List Token) (start : Nat) : Set Nat :=
  {stop | start ≤ stop ∧ Spelling ws (tokens.extract start stop)}

section Places

variable {ws : List Text} {tokens rest : List Token} {start : Nat}

/-- The words are read up to the first place where the tokens spell them. -/
theorem matchWords_isLeast (h : matchWords ws (tokens.drop start) = some rest) :
    ∃ stop, wordsEnd ws tokens start = some stop ∧ rest = tokens.drop stop ∧
      IsLeast (spellingEnds ws tokens start) stop := by
  obtain ⟨k, hk, rfl, hspell, hleast⟩ := matchWords_shortest h
  refine ⟨start + k, ?_, List.drop_drop, ⟨Nat.le_add_right start k, ?_⟩, ?_⟩
  · rw [wordsEnd, h, Option.map_some, List.length_drop (i := k), Nat.sub_sub_self hk]
  · rwa [List.extract_eq_take_drop, Nat.add_sub_cancel_left]
  · rintro stop ⟨hstop, hm⟩
    rw [List.extract_eq_take_drop] at hm
    have := hleast _ hm
    omega

theorem not_mem_spellingEnds (h : matchWords ws (tokens.drop start) = none) (stop : Nat) :
    stop ∉ spellingEnds ws tokens start := by
  rintro ⟨-, hm⟩
  rw [List.extract_eq_take_drop] at hm
  exact not_spelling_of_matchWords h _ hm

end Places

/-- Words are read up to a place just if it is the first one up to which the tokens spell them, however the
words are folded into tokens; nothing is read just if there is no such place. -/
theorem wordsEnd_isLeast (ws : List Text) (tokens : List Token) (start : Nat) :
    (∀ stop, wordsEnd ws tokens start = some stop ↔ IsLeast (spellingEnds ws tokens start) stop) ∧
    (wordsEnd ws tokens start = none ↔ ∀ stop, stop ∉ spellingEnds ws tokens start) ∧
    matchWords ws (tokens.drop start) = (wordsEnd ws tokens start).map tokens.drop := by
  cases h : matchWords ws (tokens.drop start) with
  | none =>
    have hnone : wordsEnd ws tokens start = none := by rw [wordsEnd, h, Option.map_none]
    have hempty := not_mem_spellingEnds h
    rw [hnone]
    exact ⟨fun stop => iff_of_false (by simp) fun hs => hempty stop hs.1, iff_of_true rfl hempty, rfl⟩
  | some rest =>
    obtain ⟨stop, hend, rfl, hleast⟩ := matchWords_isLeast h
    rw [hend]
    refine ⟨fun other => ⟨?_, fun ho => ?_⟩, iff_of_false (by simp) fun hnone => hnone stop hleast.1, rfl⟩
    · rintro ⟨⟩
      exact hleast
    · rw [Nat.le_antisymm (hleast.2 ho.1) (ho.2 hleast.1)]

end DryRun.Sql
