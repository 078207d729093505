import DryRun.Proofs.Sql.Headers

/-!
# Nesting of parentheses

The nesting of a list of tokens is the number of parentheses that it opens less those that it closes.
`level` counts along the list and gives up below zero, which is the same as asking for all beginnings at once
(`level_eq_some`). So the parenthesis that `enclosed` finds is the first at which the nesting is back at zero
(`Closes`), and in a statement that passes its check there is one for each that opens (`exists_closes`).
The tokens that count are the parentheses of the text that stand in no string, comment or quoted name
(`Reads.parens`).
-/

namespace DryRun.Sql

open Text

/-- What a token of the kind adds to the nesting. -/
def Kind.nesting : Kind → Int
  | .leftParen => 1
  | .rightParen => -1
  | _ => 0

/-- Parentheses opened less parentheses closed. -/
def nesting : List Token → Int
  | [] => 0
  | t :: ts => t.kind.nesting + nesting ts

/-- No parenthesis is closed that is not opened before, and all that are opened are closed. -/
structure Balanced (ts : List Token) : Prop where
  nonneg : ∀ p, p <+: ts → 0 ≤ nesting p
  closed : nesting ts = 0

/-- `closing` is the first token behind `opening` at which the nesting returns to zero. -/
structure Closes (opening : Token) (inner : List Token) (closing : Token) : Prop where
  pos : ∀ p, p <+: inner → 0 < nesting (opening :: p)
  closed : nesting (opening :: (inner ++ [closing])) = 0

theorem Kind.eq_rightParen_of_nesting {k : Kind} (h : k.nesting < 0) : k = .rightParen := by
  unfold Kind.nesting at h
  split at h
  · omega
  · rfl
  · omega

theorem Kind.nesting_eq_zero {k : Kind} (hl : k ≠ .leftParen) (hr : k ≠ .rightParen) : k.nesting = 0 := by
  unfold Kind.nesting
  split
  · exact absurd rfl hl
  · exact absurd rfl hr
  · rfl

theorem Kind.neg_one_le_nesting (k : Kind) : -1 ≤ k.nesting := by
  cases k <;> decide

theorem nesting_append (ts us : List Token) : nesting (ts ++ us) = nesting ts + nesting us := by
  induction ts with
  | nil => rw [List.nil_append, nesting, Int.zero_add]
  | cons t ts ih => rw [List.cons_append, nesting, nesting, ih, Int.add_assoc]

theorem prefixes_cons {d : Int} {t : Token} {ts : List Token} :
    (∀ p, p <+: t :: ts → 0 ≤ d + nesting p) ↔
      0 ≤ d ∧ ∀ p, p <+: ts → 0 ≤ d + t.kind.nesting + nesting p := by
  constructor
  · intro h
    refine ⟨by simpa [nesting] using h [] List.nil_prefix, fun p hp => ?_⟩
    rw [Int.add_assoc]
    exact h (t :: p) ((List.prefix_cons_inj t).2 hp)
  · rintro ⟨hd, h⟩ p hp
    rcases List.prefix_cons_iff.1 hp with rfl | ⟨q, rfl, hq⟩
    · simpa [nesting] using hd
    · rw [nesting, ← Int.add_assoc]
      exact h q hq

/-- The level after a list of tokens is its nesting, if that is nowhere below zero. -/
theorem level_eq_some {d e : Nat} {ts : List Token} :
    level d (ts.map (·.kind)) = some e ↔
      (∀ p, p <+: ts → 0 ≤ (d : Int) + nesting p) ∧ (e : Int) = d + nesting ts := by
  induction ts generalizing d with
  | nil =>
    simp only [List.map_nil, level, Option.some.injEq, List.prefix_nil, nesting]
    constructor
    · rintro rfl
      refine ⟨?_, by omega⟩
      rintro p rfl
      simp [nesting]
    · rintro ⟨-, h⟩
      omega
  | cons t ts ih =>
    rw [List.map_cons, level, prefixes_cons, nesting, ← Int.add_assoc]
    by_cases hl : t.kind = .leftParen
    · have hd : (d : Int) + t.kind.nesting = ((d + 1 : Nat) : Int) := by rw [hl, Kind.nesting]; omega
      rw [hd, if_pos (by rw [hl]; rfl), ih]
      exact ⟨fun h => ⟨⟨by omega, h.1⟩, h.2⟩, fun h => ⟨h.1.2, h.2⟩⟩
    rw [if_neg (by simpa using hl)]
    by_cases hr : t.kind = .rightParen
    · rw [if_pos (by rw [hr]; rfl)]
      by_cases hd : d = 0
      · -- a parenthesis is closed that was not opened
        rw [if_pos hd]
        simp only [reduceCtorEq, false_iff, not_and]
        rintro ⟨-, h⟩
        have := h [] List.nil_prefix
        rw [hr, Kind.nesting, nesting] at this
        omega
      · have hd' : (d : Int) + t.kind.nesting = ((d - 1 : Nat) : Int) := by rw [hr, Kind.nesting]; omega
        rw [if_neg hd, hd', ih]
        exact ⟨fun h => ⟨⟨by omega, h.1⟩, h.2⟩, fun h => ⟨h.1.2, h.2⟩⟩
    · rw [if_neg (by simpa using hr), Kind.nesting_eq_zero hl hr, Int.add_zero, ih]
      exact ⟨fun h => ⟨⟨by omega, h.1⟩, h.2⟩, fun h => ⟨h.1.2, h.2⟩⟩

theorem balanced_iff {ts : List Token} : Balanced ts ↔ level 0 (ts.map (·.kind)) = some 0 := by
  rw [level_eq_some]
  constructor
  · intro h
    exact ⟨fun p hp => by have := h.nonneg p hp; omega, by have := h.closed; omega⟩
  · rintro ⟨h, hz⟩
    exact ⟨fun p hp => by have := h p hp; omega, by omega⟩

theorem closes_iff {opening closing : Token} {inner : List Token} (ho : opening.kind = .leftParen) :
    Closes opening inner closing ↔ closing.kind = .rightParen ∧ Balanced inner := by
  have hone : ∀ ts, nesting (opening :: ts) = 1 + nesting ts := fun ts => by rw [nesting, ho]; rfl
  have hend : nesting (opening :: (inner ++ [closing])) = 1 + nesting inner + closing.kind.nesting := by
    rw [hone, nesting_append, nesting, nesting]
    omega
  constructor
  · intro h
    have hinner := h.pos inner List.prefix_rfl
    have hclosed := h.closed
    rw [hone] at hinner
    rw [hend] at hclosed
    have hk : closing.kind = .rightParen := Kind.eq_rightParen_of_nesting (by omega)
    rw [hk, Kind.nesting] at hclosed
    refine ⟨hk, fun p hp => ?_, by omega⟩
    have := h.pos p hp
    rw [hone] at this
    omega
  · rintro ⟨hk, hb⟩
    refine ⟨fun p hp => ?_, ?_⟩
    · have := hb.nonneg p hp
      rw [hone]
      omega
    · rw [hend, hb.closed, hk]
      rfl

/-- What `enclosed` finds is the parenthesis that closes the one before. -/
theorem enclosed_iff_closes {opening closing : Token} {ts inner after : List Token}
    (ho : opening.kind = .leftParen) :
    enclosed 0 ts = some (inner, closing, after) ↔
      ts = inner ++ closing :: after ∧ Closes opening inner closing := by
  rw [enclosed_eq_some, closes_iff ho, balanced_iff]

/-- A count that begins above zero and does not end there comes back to zero. -/
theorem exists_return {d : Int} {ts : List Token} (hd : 0 < d) (h : d + nesting ts ≤ 0) :
    ∃ inner closing after, ts = inner ++ closing :: after ∧ (∀ p, p <+: inner → 0 < d + nesting p) ∧
      d + nesting (inner ++ [closing]) = 0 := by
  induction ts generalizing d with
  | nil =>
    rw [nesting] at h
    omega
  | cons t ts ih =>
    rw [nesting, ← Int.add_assoc] at h
    have hstep := t.kind.neg_one_le_nesting
    by_cases hzero : d + t.kind.nesting = 0
    · refine ⟨[], t, ts, rfl, fun p hp => ?_, by simpa [nesting] using hzero⟩
      rw [List.prefix_nil.1 hp, nesting]
      omega
    · obtain ⟨inner, closing, after, rfl, hpos, hclosed⟩ := ih (d := d + t.kind.nesting) (by omega) h
      refine ⟨t :: inner, closing, after, rfl, fun p hp => ?_, ?_⟩
      · rcases List.prefix_cons_iff.1 hp with rfl | ⟨q, rfl, hq⟩
        · rw [nesting]
          omega
        · rw [nesting, ← Int.add_assoc]
          exact hpos q hq
      · rw [List.cons_append, nesting, ← Int.add_assoc]
        exact hclosed

/-- A parenthesis that a balanced list opens is closed in it. -/
theorem Balanced.exists_closes {A rest : List Token} {opening : Token} (h : Balanced (A ++ opening :: rest))
    (ho : opening.kind = .leftParen) :
    ∃ inner closing after, rest = inner ++ closing :: after ∧ Closes opening inner closing := by
  have hone : ∀ ts, nesting (opening :: ts) = 1 + nesting ts := fun ts => by rw [nesting, ho]; rfl
  have hbefore := h.nonneg A (List.prefix_append ..)
  have hall := h.closed
  rw [nesting_append, hone] at hall
  have hbelow : 1 + nesting rest ≤ 0 := by omega
  obtain ⟨inner, closing, after, rfl, hpos, hclosed⟩ := exists_return Int.one_pos hbelow
  refine ⟨inner, closing, after, rfl, fun p hp => ?_, ?_⟩
  · rw [hone]
    exact hpos p hp
  · rw [hone]
    exact hclosed

/-! ## The check of a statement -/

/-- A separator is the last token, if there is one. -/
def SeparatorLast (ts : List Token) : Prop :=
  ∀ k t, ts[k]? = some t → t.kind = .semicolon → k + 1 = ts.length

theorem separatorLast_cons {t : Token} {ts : List Token} :
    SeparatorLast (t :: ts) ↔ (t.kind = .semicolon → ts = []) ∧ SeparatorLast ts := by
  constructor
  · intro h
    refine ⟨fun hk => List.length_eq_zero_iff.1 ?_, fun k s hs hk => ?_⟩
    · have := h 0 t rfl hk
      rw [List.length_cons] at this
      omega
    · have := h (k + 1) s hs hk
      rw [List.length_cons] at this
      omega
  · rintro ⟨hfirst, hrest⟩ k s hs hk
    cases k with
    | zero =>
      cases hs
      rw [hfirst hk]
      rfl
    | succ k => rw [List.length_cons, hrest k s hs hk]

/-- A list passes its check if it is balanced and only its last token can be a separator. -/
theorem checkTokens_eq_ok {depth : Nat} {ts : List Token} :
    checkTokens depth ts = .ok () ↔ level depth (ts.map (·.kind)) = some 0 ∧ SeparatorLast ts := by
  induction ts generalizing depth with
  | nil =>
    cases depth with
    | zero => simp [checkTokens, level, SeparatorLast]
    | succ depth => simp [checkTokens, level]
  | cons t ts ih =>
    rw [checkTokens_cons, separatorLast_cons, List.map_cons, level]
    by_cases hs : t.kind = .semicolon
    · cases ts with
      | nil => simp [hs, ih]
      | cons u ts => simp [hs]
    · have hs' : (t.kind == .semicolon) = false := by simpa using hs
      simp only [hs, hs', Bool.false_and, Bool.false_eq_true, if_false, false_implies, true_and]
      split
      · exact ih
      split
      · cases depth with
        | zero => simp
        | succ depth => exact ih
      · exact ih

/-- A parenthesis that a list that passes its check opens is closed in it. -/
theorem exists_closes {A rest : List Token} {opening : Token} (ho : opening.kind = .leftParen)
    (h : checkTokens 0 (A ++ opening :: rest) = .ok ()) :
    ∃ inner closing after, rest = inner ++ closing :: after ∧ Closes opening inner closing :=
  (balanced_iff.2 (checkTokens_eq_ok.1 h).1).exists_closes ho

/-! ## Parentheses of a text -/

/-- The kinds of lexemes that hold text in which a parenthesis is none. -/
def quotingKinds : List Kind :=
  [.quotedName, .string, .nationalString, .rawString, .hexString, .comment, .hint]

def parenChars : Text := ['(', ')']

theorem isEdge_of_paren : ∀ d ∈ parenChars, isEdge d = true ∧ isBlank d = false := by decide

theorem eq_of_signKind {c d : Char} (hd : d ∈ parenChars) (h : signKind c = signKind d) : c = d := by
  simp only [parenChars, List.mem_cons, List.not_mem_nil, or_false] at hd
  rcases hd with rfl | rfl
  · exact eq_leftParen h
  · exact eq_rightParen h

/-- A phrase has no edge in it but blanks. -/
theorem phraseLength_edge {p t : Text} {ab : Bool} {used n : Nat} (hp : isPhraseRest p = true)
    (hab : ab = true → p ∈ secondWords) (h : phraseLength p ab used t = some n) :
    ∀ d ∈ t.take (n - used), isEdge d = true → isBlank d = true := by
  induction t generalizing p ab used with
  | nil => simp
  | cons c t ih =>
    intro d hd hedge
    by_cases hne : p = []
    · subst hne
      rw [phraseLength_nil] at h
      cases h
      simp at hd
    · rw [phraseLength_cons hne] at h
      obtain ⟨⟨r, b⟩, hstep, h⟩ := Option.bind_eq_some_iff.1 h
      obtain ⟨hr, hb, -⟩ := phraseStep_rest hstep hp hab
      have hbound := (phraseLength_bounds h).1
      rw [show n - used = n - (used + 1) + 1 by omega, List.take_succ_cons] at hd
      rcases List.mem_cons.1 hd with rfl | hd
      · cases hblank : isBlank d with
        | true => rfl
        | false =>
          rw [phraseStep_edge hp hedge hblank] at hstep
          cases hstep
      · exact ih hr hb h d hd hedge

theorem isEdge_of_isNumberChar {d : Char} (h : isNumberChar d = true) : isEdge d = false := by
  rcases endsWord_of_isNumberChar h with h | rfl | rfl | rfl
  · simp [isEdge, h]
  · decide
  · decide
  · decide

theorem isEdge_of_mem_wordAhead {t : Text} {d : Char} (h : d ∈ wordAhead t) : isEdge d = false := by
  simp [isEdge, endsWord_of_mem_wordAhead h]

/-- A number has no edge in it. -/
theorem readNumber_edge {b : Bool} {c : Char} {t : Text} {ls : List Lexeme} {n : Nat}
    (hc : isDigit c = true) (h : readNumber b (c :: t) = (ls, n)) :
    ∀ d ∈ (c :: t).take n, isEdge d = false := by
  have hfirst : isNumberChar c = true := by simp [isNumberChar, hc]
  intro d hd
  rcases readNumber_cases h with ⟨-, rfl, -⟩ | ⟨-, m, -, rfl, hall⟩ | ⟨m, -, e, w, hw, rfl, hall, -⟩
  · rw [take_wordAhead] at hd
    exact isEdge_of_mem_wordAhead hd
  · rw [List.take_succ_cons] at hd
    rcases List.mem_cons.1 hd with rfl | hd
    · exact isEdge_of_isNumberChar hfirst
    · exact isEdge_of_isNumberChar (hall d hd)
  · rw [List.take_add, List.take_succ_cons, List.drop_succ_cons, ← hw, take_wordAhead] at hd
    rcases List.mem_append.1 hd with hd | hd
    · rcases List.mem_cons.1 hd with rfl | hd
      · exact isEdge_of_isNumberChar hfirst
      · exact isEdge_of_isNumberChar (hall d hd)
    · exact isEdge_of_mem_wordAhead hd

section Lexeme

variable {p : Option Lexeme} {c d : Char} {u r : Text} {K : List Lexeme}

/-- A parenthesis is read as a lexeme of its own, or within one that quotes it. -/
theorem readLexeme_paren (h : readLexeme p (c :: (u ++ r)) = .ok (K, u.length + 1)) (hd : d ∈ parenChars)
    (hmem : d ∈ c :: u) :
    (u = [] ∧ K = [⟨signKind c, [c]⟩]) ∨ ∃ l ∈ K, l.kind ∈ quotingKinds := by
  obtain ⟨hedge, hblank⟩ := isEdge_of_paren d hd
  have htake : (c :: (u ++ r)).take (u.length + 1) = c :: u := by
    rw [List.take_succ_cons, List.take_left]
  rw [← htake] at hmem
  rw [readLexeme_cons] at h
  split at h
  · rename_i hdigit
    rw [readNumber_edge hdigit (Except.ok.inj h) d hmem] at hedge
    cases hedge
  split at h
  · obtain ⟨l, -, rfl, hk, -⟩ := readQuotation_cases h
    refine .inr ⟨l, List.mem_singleton_self l, ?_⟩
    rcases hk with ⟨-, hk⟩ | hk <;> rw [hk] <;> decide
  rcases readPlain_cases h with ⟨l, rfl, hr⟩ | ⟨l, rfl, hr⟩ | ⟨l, rfl, hr⟩ | ⟨o, ho, rfl, hstarts, hn⟩ |
    ⟨-, rfl, hn⟩ | ⟨-, -, hn⟩
  · refine .inr ⟨l, List.mem_singleton_self l, ?_⟩
    rcases readComment?_end hr with ⟨-, rfl, -⟩ | ⟨hk | hk, -⟩
    · exact (by decide : Kind.comment ∈ quotingKinds)
    · rw [hk]; decide
    · rw [hk]; decide
  · refine .inr ⟨l, List.mem_singleton_self l, ?_⟩
    rcases (readMarkedString?_cases hr).1 with hk | hk | hk <;> rw [hk] <;> decide
  · obtain ⟨phrase, hphrase, hlength, -⟩ := readPhrase?_cases hr
    have hrest := phraseLength_edge (isPhraseRest_phrase phrase hphrase).1 (by simp) hlength d hmem hedge
    rw [hblank] at hrest
    cases hrest
  · -- no operator has a parenthesis in it
    obtain ⟨r', hr'⟩ := startsWith_iff.1 hstarts
    rw [hn, hr', List.take_left] at hmem
    have key : ∀ o ∈ operators, ∀ d ∈ parenChars, d ∉ o := by decide +kernel
    exact absurd hmem (key o ho d hd)
  · exact .inl ⟨List.length_eq_zero_iff.1 (by omega), rfl⟩
  · rw [hn, take_wordAhead] at hmem
    rw [isEdge_of_mem_wordAhead hmem] at hedge
    cases hedge

/-- The sign for a parenthesis is read just where it stands unquoted. -/
theorem group_parens (h : readLexeme p (c :: (u ++ r)) = .ok (K, u.length + 1)) (hd : d ∈ parenChars)
    (k : Nat) :
    ((∃ l ∈ K, l.kind = signKind d) ∧ k = 0) ↔
      (c :: u)[k]? = some d ∧ ¬ ∃ l ∈ K, l.kind ∈ quotingKinds := by
  have hsign : ∀ d ∈ parenChars, (signKind d).isSign = true ∧ signKind d ∉ quotingKinds := by decide
  constructor
  · rintro ⟨⟨l, hl, hk⟩, rfl⟩
    obtain ⟨rfl, -⟩ := readLexeme_sign h hl (by rw [hk]; exact (hsign d hd).1)
    cases List.mem_singleton.1 hl
    refine ⟨congrArg some (eq_of_signKind hd hk), ?_⟩
    rintro ⟨l, hl, hquoting⟩
    cases List.mem_singleton.1 hl
    exact (hsign d hd).2 (hk ▸ hquoting)
  · rintro ⟨hget, hquoting⟩
    rcases readLexeme_paren h hd (List.mem_of_getElem? hget) with ⟨rfl, rfl⟩ | hquoting'
    · cases k with
      | zero =>
        cases hget
        exact ⟨⟨_, List.mem_singleton_self _, rfl⟩, rfl⟩
      | succ k => cases hget
    · exact absurd hquoting' hquoting

end Lexeme

/-- Some token of a list that quotes what it holds lies over an offset. -/
def QuotedBy (ts : List Token) (k : Nat) : Prop :=
  ∃ t ∈ ts, t.kind ∈ quotingKinds ∧ t.start ≤ k ∧ k < t.stop

/-- Some token of a list is the sign for `d` at an offset. -/
def SignAt (ts : List Token) (d : Char) (k : Nat) : Prop := ∃ t ∈ ts, t.kind = signKind d ∧ t.start = k

theorem quotedBy_append {ts us : List Token} {k : Nat} :
    QuotedBy (ts ++ us) k ↔ QuotedBy ts k ∨ QuotedBy us k := by
  simp only [QuotedBy, List.mem_append, or_and_right, exists_or]

theorem signAt_append {ts us : List Token} {d : Char} {k : Nat} :
    SignAt (ts ++ us) d k ↔ SignAt ts d k ∨ SignAt us d k := by
  simp only [SignAt, List.mem_append, or_and_right, exists_or]

theorem signAt_placed {start stop : Nat} {K : List Lexeme} {d : Char} {k : Nat} :
    SignAt (placed start stop K) d k ↔ (∃ l ∈ K, l.kind = signKind d) ∧ start = k := by
  constructor
  · rintro ⟨t, ht, hk, hstart⟩
    obtain ⟨l, hl, rfl⟩ := List.mem_map.1 ht
    exact ⟨⟨l, hl, hk⟩, hstart⟩
  · rintro ⟨⟨l, hl, hk⟩, hstart⟩
    exact ⟨_, List.mem_map_of_mem hl, hk, hstart⟩

theorem quotedBy_placed {start stop : Nat} {K : List Lexeme} {k : Nat} :
    QuotedBy (placed start stop K) k ↔ (∃ l ∈ K, l.kind ∈ quotingKinds) ∧ start ≤ k ∧ k < stop := by
  constructor
  · rintro ⟨t, ht, hk, hplace⟩
    obtain ⟨l, hl, rfl⟩ := List.mem_map.1 ht
    exact ⟨⟨l, hl, hk⟩, hplace⟩
  · rintro ⟨⟨l, hl, hk⟩, hplace⟩
    exact ⟨_, List.mem_map_of_mem hl, hk, hplace⟩

/-- Tokens that end before an offset or begin behind it do not lie over it. -/
theorem not_quotedBy {ts : List Token} {k : Nat} (h : ∀ t ∈ ts, t.stop ≤ k ∨ k < t.start) :
    ¬ QuotedBy ts k := by
  rintro ⟨t, ht, -, hstart, hstop⟩
  have hplace := h t ht
  omega

/-- The parentheses among the tokens are those of the text that no token quotes. -/
theorem Reads.parens {y x : Text} {p q : Option Lexeme} {M R : List Token} {offset : Nat}
    (h : Reads y p x (M.map Token.toLexeme) q) (hs : scanFrom 0 offset p (x ++ y) = .ok (M ++ R)) {d : Char}
    (hd : d ∈ parenChars) (k : Nat) :
    SignAt M d (offset + k) ↔ x[k]? = some d ∧ ¬ QuotedBy M (offset + k) := by
  generalize hL : M.map Token.toLexeme = L at h
  induction h generalizing M offset k with
  | nil =>
    rw [List.map_eq_nil_iff.1 hL]
    simp [SignAt]
  | @blank p q c x L hc h ih =>
    rw [List.cons_append, scanFrom_blank hc] at hs
    cases k with
    | zero =>
      have hplace := (hL ▸ h).places hs
      have hsign : ¬ SignAt M d (offset + 0) := by
        rintro ⟨t, ht, -, hstart⟩
        have := hplace t ht
        omega
      refine iff_of_false hsign fun hget => ?_
      cases hget.1
      rw [(isEdge_of_paren d hd).2] at hc
      cases hc
    | succ k =>
      rw [List.getElem?_cons_succ, show offset + (k + 1) = offset + 1 + k by omega]
      exact ih hs k hL
  | @lexeme p q c u x K L hc hr hcmd h ih =>
    obtain ⟨G, M, rfl, hG, hM⟩ := List.map_eq_append_iff.1 hL
    rw [List.cons_append, List.append_assoc, scanFrom_lexeme offset hc hr hcmd] at hs
    obtain ⟨R', hs, heq⟩ := map_eq_ok.1 hs
    have hlength : (placed offset (offset + (u.length + 1)) K).length = G.length := by
      rw [placed, List.length_map, ← hG, List.length_map]
    rw [List.append_assoc] at heq
    obtain ⟨rfl, rfl⟩ := List.append_inj heq hlength
    have hplace := (hM ▸ h).places hs
    rw [signAt_append, quotedBy_append, signAt_placed, quotedBy_placed]
    by_cases hk : k < u.length + 1
    · -- only the lexemes read here can lie over the offset
      have hsign : ¬ SignAt M d (offset + k) := by
        rintro ⟨t, ht, -, hstart⟩
        have := hplace t ht
        omega
      have hquoted : ¬ QuotedBy M (offset + k) := not_quotedBy fun t ht => by
        have := hplace t ht
        omega
      have hget : (c :: (u ++ x))[k]? = (c :: u)[k]? := by
        rw [← List.cons_append, List.getElem?_append_left (by rw [List.length_cons]; exact hk)]
      have hzero : offset = offset + k ↔ k = 0 := by omega
      have hover : offset ≤ offset + k ∧ offset + k < offset + (u.length + 1) := by omega
      rw [or_iff_left hsign, or_iff_left hquoted, hget, hzero, and_iff_left hover]
      exact group_parens hr hd k
    · have hzero : offset ≠ offset + k := by omega
      have hover : ¬ (offset ≤ offset + k ∧ offset + k < offset + (u.length + 1)) := by omega
      have hget : (c :: (u ++ x))[k]? = x[k - (u.length + 1)]? := by
        rw [← List.cons_append, List.getElem?_append_right (by rw [List.length_cons]; omega), List.length_cons]
      rw [or_iff_right fun h => hzero h.2, or_iff_right fun h => hover h.2, hget,
        show offset + k = offset + (u.length + 1) + (k - (u.length + 1)) by omega]
      exact ih hs (k - (u.length + 1)) hM

end DryRun.Sql
