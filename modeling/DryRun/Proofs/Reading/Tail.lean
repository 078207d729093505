import DryRun.Proofs.Reading.Definition
import DryRun.Proofs.Sql.Places
import Mathlib.Data.List.Forall2

/-!
# What stands behind the columns of a definition

A CREATE TABLE is known by its header, and the header ends with the parenthesis that closes the columns:
`columnsEnd?` says where. No reader looks past the opening parenthesis before it has found the name
(`readTableOpening_before`), and the tokens up to the closing one do not depend on what follows it, so the
definition does not either (`readDefinition_tail`).
-/

namespace DryRun

open Text Sql

namespace Sql

/-! ## Reading up to a parenthesis -/

section Before

variable {o : Token} (ho : o.toLexeme = ⟨.leftParen, ['(']⟩)

include ho

/-- Words are matched in front of an opening parenthesis or not at all. -/
theorem matchWords_before (ws : List Text) (hws : ['('] ∉ ws) (A : List Token) :
    (∀ r, matchWords ws (A ++ o :: r) = none) ∨
      ∃ A', ∀ r, matchWords ws (A ++ o :: r) = some (A' ++ o :: r) := by
  induction A generalizing ws with
  | nil =>
    cases ws with
    | nil => exact .inr ⟨[], fun r => rfl⟩
    | cons w ws =>
      have hw : '(' :: [] ≠ w := fun h => hws (by rw [h]; exact List.mem_cons_self ..)
      have hspelled : o.spelled = [['(']] := by rw [ho]; decide
      exact .inl fun r => matchWords_none hspelled hw r
  | cons t A ih =>
    cases ws with
    | nil => exact .inr ⟨t :: A, fun r => rfl⟩
    | cons w ws =>
      simp only [List.cons_append, matchWords]
      cases t.isQuoted with
      | true => exact .inl fun r => rfl
      | false =>
        cases hp : t.spelled.isPrefixOf? (w :: ws) with
        | none => exact .inl fun r => rfl
        | some pending =>
          have hpending := List.isPrefixOf?_eq_some_iff_append_eq.1 hp
          exact ih pending fun hm => hws (by rw [← hpending]; exact List.mem_append_right _ hm)

theorem skipWords_before (ws : List Text) (hws : ['('] ∉ ws) (A : List Token) :
    ∃ A', ∀ r, skipWords ws (A ++ o :: r) = A' ++ o :: r := by
  rcases matchWords_before ho ws hws A with h | ⟨A', h⟩
  · exact ⟨A, fun r => by rw [skipWords, h]; rfl⟩
  · exact ⟨A', fun r => by rw [skipWords, h]; rfl⟩

theorem dottedParts_before : ∀ A : List Token, ∃ parts A', ∀ r,
    dottedParts (A ++ o :: r) = (parts, A' ++ o :: r)
  | [] => ⟨[], [], fun r => dottedParts_of_head fun t ht => by cases ht; rw [ho]; decide⟩
  | [d] => ⟨[], [d], fun r => by
      have hname : o.isName = false := by rw [ho]; decide
      simp [dottedParts, hname]⟩
  | d :: n :: A => by
      obtain ⟨parts, A', h⟩ := dottedParts_before A
      simp only [List.cons_append, dottedParts, h]
      split
      · exact ⟨n :: parts, A', fun r => rfl⟩
      · exact ⟨[], d :: n :: A, fun r => rfl⟩

theorem readTableName_before (A : List Token) :
    (∀ r, readTableName (A ++ o :: r) = none) ∨
      ∃ ref start stop A', ∀ r, readTableName (A ++ o :: r) = some ⟨ref, start, stop, A' ++ o :: r⟩ := by
  cases A with
  | nil =>
    have hname : o.isName = false := by rw [ho]; decide
    exact .inl fun r => by simp [readTableName, hname]
  | cons t A =>
    obtain ⟨parts, A', h⟩ := dottedParts_before ho A
    simp only [List.cons_append, readTableName, h]
    split
    · cases TableRef.ofParts? ((t :: parts).map (·.text)) with
      | none => exact .inl fun r => rfl
      | some ref => exact .inr ⟨ref, _, _, A', fun r => rfl⟩
    · exact .inl fun r => rfl

/-- The name of a table and the parenthesis after it are read without looking further. -/
theorem readTableOpening_before {A r : List Token} {table : TableRef}
    (h : readTableOpening (A ++ o :: r) = some (table, o, r)) (r' : List Token) :
    readTableOpening (A ++ o :: r') = some (table, o, r') := by
  unfold readTableOpening at h ⊢
  rcases matchWords_before ho ["CREATE".toList] (by decide) A with hc | ⟨A₁, hc⟩
  · simp only [hc, Option.bind_eq_bind, Option.bind_none, reduceCtorEq] at h
  obtain ⟨A₂, hor⟩ := skipWords_before ho ["OR".toList, "REPLACE".toList] (by decide) A₁
  obtain ⟨A₃, htemp⟩ := skipWords_before ho ["TEMPORARY".toList] (by decide) A₂
  rcases matchWords_before ho ["TABLE".toList] (by decide) A₃ with ht | ⟨A₄, ht⟩
  · simp only [hc, hor, htemp, ht, Option.bind_eq_bind, Option.bind_some, Option.bind_none,
      reduceCtorEq] at h
  obtain ⟨A₅, hif⟩ := skipWords_before ho ["IF".toList, "NOT".toList, "EXISTS".toList]
    (by decide) A₄
  rcases readTableName_before ho A₅ with hn | ⟨ref, start, stop, A₆, hn⟩
  · simp only [hc, hor, htemp, ht, hif, hn, Option.bind_eq_bind, Option.bind_some, Option.bind_none,
      reduceCtorEq] at h
  simp only [hc, hor, htemp, ht, hif, hn, Option.bind_eq_bind, Option.bind_some] at h ⊢
  cases A₆ with
  | nil =>
    simp only [List.nil_append] at h ⊢
    split at h
    · rename_i hk
      cases h
      rw [if_pos hk]
    · cases h
  | cons t A₆ =>
    -- the parenthesis after the name is the one given, not one before it
    simp only [List.cons_append] at h
    split at h
    · have hlen := congrArg (fun r => r.2.2.length) (Option.some.inj h)
      simp at hlen
      omega
    · cases h

end Before

end Sql

theorem slice_append {p s : Text} {start stop : Nat} (h : stop ≤ p.length) :
    slice (p ++ s) start stop = slice p start stop := by
  rw [slice, slice, ← List.drop_take, ← List.drop_take, List.take_append_of_le_length h]

/-! ## Definitions with other tails -/

/-- The offset past the parenthesis that closes the columns of the table that a text creates. -/
def columnsEnd? (sql : Text) : Option Nat := do
  let s ← (readStatement sql).toOption
  let (_, _, rest) ← readTableOpening s.tokens
  let (_, closing, _) ← enclosed 0 rest
  some closing.stop

theorem columnsEnd?_eq_some {sql : Text} {n : Nat} (h : columnsEnd? sql = some n) :
    ∃ s table opening inner closing after, readStatement sql = .ok s ∧
      readTableOpening s.tokens = some (table, opening, inner ++ closing :: after) ∧
      closing.kind = .rightParen ∧ level 0 (inner.map (·.kind)) = some 0 ∧ closing.stop = n := by
  obtain ⟨s, hs, h⟩ := Option.bind_eq_some_iff.1 h
  obtain ⟨⟨table, opening, rest⟩, ho, h⟩ := Option.bind_eq_some_iff.1 h
  obtain ⟨⟨inner, closing, after⟩, he, hstop⟩ := Option.bind_eq_some_iff.1 h
  obtain ⟨rfl, hk, hlevel⟩ := enclosed_eq_some.1 he
  refine ⟨s, table, opening, inner, closing, after, ?_, ho, hk, hlevel, Option.some.inj hstop⟩
  cases hr : readStatement sql with
  | error e => rw [hr] at hs; cases hs
  | ok s' => rw [hr] at hs; cases hs; rfl

/-- The tokens up to a closing parenthesis do not depend on what stands behind it. -/
theorem scan_tail {p s : Text} {pieces M B : List Token} {closing : Token}
    (hscan : scan (p ++ s) = .ok (M ++ closing :: B)) (hsep : ∀ t ∈ M, t.kind ≠ .semicolon)
    (hk : closing.kind = .rightParen) (hstop : closing.stop = p.length) {s' : Text}
    (hscan' : scan (p ++ s') = .ok pieces) :
    closing.start ≤ p.length ∧ ∃ B', pieces = M ++ closing :: B' := by
  obtain ⟨x, y, q, hxy, hreads, hstart, hs, hy⟩ := scan_cut hscan
    (fun t ht => by
      rcases List.mem_append.1 ht with ht | ht
      · exact hsep t ht
      · rw [List.mem_singleton.1 ht, hk]; decide)
    (by rw [hk]; decide) (fun he => by rw [he] at hk; cases hk) (fun hk' => by rw [hk] at hk'; cases hk')
  obtain ⟨c, r, rfl, hclosing, hr⟩ := scan_sign hs hy (by rw [hk]; rfl)
  have hc : c = ')' := eq_rightParen (by rw [hclosing] at hk; exact hk)
  subst hc
  have hlen : (x ++ [')']).length = p.length := by
    rw [← hstop, hclosing, hstart]
    simp
  have happend : p ++ s = x ++ [')'] ++ r := by
    rw [hxy]
    simp
  obtain ⟨rfl, rfl⟩ := List.append_inj happend hlen.symm
  have hsplit (t : Text) : x ++ [')'] ++ t = x ++ ')' :: t := by simp
  have hsealed : x ≠ [] → Sealed x (')' :: s') := fun _ => .inl .paren
  obtain ⟨M', hM, hM'⟩ := hreads.exchange_scan (fun _ => .of_closer fun c hc => by cases hc; decide)
    hsealed ⟨')', rfl, by decide⟩ 0
  rw [scan, hsplit, hM, ← hstart, hs] at hscan
  have hMM' : M' = M := List.append_cancel_right (Except.ok.inj hscan)
  rw [scan, hsplit, hM', ← hstart, scanFrom_sign (by decide)] at hscan'
  obtain ⟨T, hT, rfl⟩ := map_eq_ok.1 hscan'
  obtain ⟨B', -, rfl⟩ := map_eq_ok.1 hT
  refine ⟨by rw [hstart]; simp, B', ?_⟩
  rw [hMM', hclosing]

/-- A definition does not depend on what stands behind its columns. -/
theorem readDefinition_tail {p s s' : Text} {st' : Statement} (h : columnsEnd? (p ++ s) = some p.length)
    (h' : readStatement (p ++ s') = .ok st') :
    ∃ table columns,
      readDefinition (p ++ s) = .ok ⟨.create, "TABLE".toList, some table, columns⟩ ∧
      readDefinition (p ++ s') = .ok ⟨.create, "TABLE".toList, some table, columns⟩ := by
  obtain ⟨st, table, opening, inner, closing, after, hst, hopen, hk, hlevel, hstop⟩ := columnsEnd?_eq_some h
  obtain ⟨pieces, hscan, htokens, hcheck⟩ := readStatement_eq_ok hst
  obtain ⟨pieces', hscan', htokens', -⟩ := readStatement_eq_ok h'
  obtain ⟨A, hA, hok⟩ := readTableOpening_split hopen
  have hsplit : st.tokens = (A ++ opening :: inner) ++ closing :: after := by rw [hA]; simp
  obtain ⟨M, B, rfl, hM, -⟩ := filter_split (htokens.symm.trans hsplit)
  rw [hsplit] at hcheck
  obtain ⟨hle, B', rfl⟩ := scan_tail hscan
    (not_separator_of_filter (fun t ht => by rwa [hM] at ht) hcheck (by simp)) hk hstop hscan'
  have hparen : opening.toLexeme = ⟨.leftParen, ['(']⟩ := by
    have hmem : opening ∈ M := (List.mem_filter.1 (by rw [hM]; simp : opening ∈ M.filter Token.isSignificant)).1
    obtain ⟨c, -, hc⟩ := scan_isSign hscan opening (List.mem_append_left _ hmem) (by rw [hok]; rfl)
    rw [hc] at hok ⊢
    rw [eq_leftParen hok]
    rfl
  have hsig : closing.isSignificant = true := by rw [Token.isSignificant, hk]; rfl
  have hst' : st'.tokens = A ++ opening :: (inner ++ closing :: B'.filter Token.isSignificant) := by
    rw [htokens', List.filter_append, hM, List.filter_cons_of_pos hsig]
    simp
  have hheader {sql : Text} {tokens after : List Token}
      (ho : readTableOpening tokens = some (table, opening, inner ++ closing :: after)) :
      readTableHeader sql tokens =
        some ⟨table, Text.strip (slice sql opening.stop closing.start)⟩ := by
    have henclosed : enclosed 0 (inner ++ closing :: after) = some (inner, closing, after) :=
      enclosed_eq_some.2 ⟨rfl, hk, hlevel⟩
    rw [readTableHeader, ho]
    simp only [Option.bind_eq_bind, Option.bind_some, henclosed]
  rw [hA] at hopen
  have hopen' := readTableOpening_before hparen hopen (inner ++ closing :: B'.filter Token.isSignificant)
  refine ⟨table, Text.strip (slice p opening.stop closing.start), ?_, ?_⟩
  · rw [readDefinition, hst]
    simp only [hheader (hA ▸ hopen), slice_append hle]
  · rw [readDefinition, h']
    simp only [hst', hheader hopen', slice_append hle]

end DryRun
