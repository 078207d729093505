import DryRun.Proofs.Reading.InsertSyntax

/-!
# Blanks before a statement

Blanks before a text move its tokens by their number and change nothing else (`scan_indent`). No reader looks at
the place of a token, so each reads the same from the moved tokens, moved in its turn. What is left of an offset
is the span of an INSERT and the place of a fault, and both move along (`readInsert_indented`).
-/

namespace DryRun

open Text Sql

namespace Sql

variable {w : Text} (hw : ∀ c ∈ w, isBlank c = true)

section Scan

include hw

theorem scanFrom_indent (o : Nat) (p : Option Lexeme) (t : Text) :
    scanFrom 0 o p (w ++ t) = scanFrom 0 (o + w.length) p t := by
  induction w generalizing o with
  | nil => rfl
  | cons c w ih =>
    obtain ⟨hc, hw⟩ := List.forall_mem_cons.1 hw
    rw [List.cons_append, scanFrom_blank hc, ih hw, List.length_cons, Nat.add_assoc, Nat.add_comm 1]

theorem scan_indent (sql : Text) : scan (w ++ sql) = (scan sql).map (List.map (Token.shift w.length)) := by
  rw [scan, scanFrom_indent hw, scanFrom_shift]
  rfl

end Scan

/-! ## Statements -/

/-- The statement `k` code points further on. -/
def Statement.shift (k : Nat) (s : Statement) : Statement := ⟨s.tokens.map (Token.shift k), s.commentAfterEnd⟩

theorem Statement.shift_tokens (k : Nat) (s : Statement) : (s.shift k).tokens = s.tokens.map (Token.shift k) :=
  rfl

theorem commentAfterEnd_shift (k : Nat) (pieces : List Token) :
    commentAfterEnd (pieces.map (Token.shift k)) = commentAfterEnd pieces := by
  have htail : (pieces.reverse.map (Token.shift k)).takeWhile (·.kind == .comment) =
      (pieces.reverse.takeWhile (·.kind == .comment)).map (Token.shift k) := by
    rw [List.takeWhile_map]
    rfl
  simp only [commentAfterEnd, ← List.map_reverse, htail, List.isEmpty_map, List.length_map, ← List.map_drop,
    List.head?_map, Option.any_map]
  rfl

theorem readStatement_indent (hw : ∀ c ∈ w, isBlank c = true) (sql : Text) :
    readStatement (w ++ sql) =
      ((readStatement sql).map (Statement.shift w.length)).mapError (ReadError.shift w.length) := by
  rw [readStatement_eq, readStatement_eq, scan_indent hw]
  cases scan sql with
  | error cause => rfl
  | ok pieces =>
    have hhead : ((pieces.filter Token.isSignificant).map (Token.shift w.length)).head?.all
        (·.kind == .semicolon) = (pieces.filter Token.isSignificant).head?.all (·.kind == .semicolon) := by
      rw [List.head?_map, Option.all_map]
      rfl
    simp only [Except.map, filter_shift, hhead, commentAfterEnd_shift, checkTokens_shift]
    split
    · rfl
    · cases checkTokens 0 (pieces.filter Token.isSignificant) <;> rfl

/-- The grammar does not see the place of a statement. -/
theorem classified_shift (k : Nat) (s : Statement) : (s.shift k).classified = s.classified := by
  have hlexemes : (s.shift k).lexemes = s.lexemes := by
    rw [Statement.lexemes, Statement.lexemes, Statement.shift, List.filter_map, List.map_map]
    rfl
  rw [Statement.classified, Statement.classified, hlexemes]
  rfl

/-- The faults that the grammar finds have no place. -/
theorem shift_of_classified {s : Statement} {e : ReadError} (h : s.classified = .error e) (k : Nat) :
    e.shift k = e := by
  rcases s.classified_error h with rfl | ⟨cause, rfl⟩ | rfl | rfl <;> rfl

/-! ## The header of an INSERT -/

theorem readVerb_shift (k : Nat) (ts : List Token) :
    readVerb (ts.map (Token.shift k)) = (readVerb ts).map fun v => (v.1.map (Token.shift k), v.2) := by
  rw [readVerb, readVerb, matchWords_shift, matchWords_shift]
  cases matchWords ["INTO".toList] ts with
  | some r => rfl
  | none => cases matchWords ["OVERWRITE".toList] ts <;> rfl

theorem skipTable_shift (k : Nat) (ts : List Token) :
    skipTable (ts.map (Token.shift k)) = (skipTable ts).map (Token.shift k) := by
  rw [skipTable, skipTable, matchWords_shift]
  match matchWords ["TABLE".toList] ts with
  | none => rfl
  | some [] => rfl
  | some (n :: r) =>
    simp only [Option.map_some, List.map_cons, apply_ite (List.map (Token.shift k))]
    rfl

theorem targetAhead?_shift (k : Nat) (ts : List Token) :
    targetAhead? (ts.map (Token.shift k)) = (targetAhead? ts).map fun t => (t.1.shift k, t.2) := by
  rw [targetAhead?, targetAhead?, matchWords_shift]
  cases matchWords ["INSERT".toList] ts with
  | none => rfl
  | some r =>
    have hhints : (r.map (Token.shift k)).dropWhile (·.kind == .hint) =
        (r.dropWhile (·.kind == .hint)).map (Token.shift k) := by
      rw [List.dropWhile_map]
      rfl
    simp only [Option.map_some, Option.bind_some, hhints, readVerb_shift]
    cases readVerb (r.dropWhile (·.kind == .hint)) with
    | none => rfl
    | some v =>
      simp only [Option.map_some, Option.bind_some, skipTable_shift, readTableName_shift]
      cases readTableName (skipTable v.1) <;> rfl

/-- The INSERT behind more blanks. -/
def Insert.indent (w : Text) (i : Insert) : Insert :=
  { i with sql := w ++ i.sql, start := i.start + w.length, stop := i.stop + w.length }

theorem readInsertHeader_indent (w sql : Text) (ts : List Token) :
    readInsertHeader (w ++ sql) (ts.map (Token.shift w.length)) =
      (readInsertHeader sql ts).map (Insert.indent w) := by
  rw [readInsertHeader_target, readInsertHeader_target, targetAhead?_shift]
  cases targetAhead? ts with
  | none => rfl
  | some t =>
    simp only [Option.map_some, Option.bind_some, NameReading.shift, opensBody_shift, bodyColumns_shift]
    split <;> rfl

theorem render_indent (w : Text) (i : Insert) (target : TableRef) :
    ((i.indent w).retarget target).render = w ++ (i.retarget target).render := by
  simp only [Insert.render, Insert.retarget, Insert.indent, Nat.add_comm _ w.length,
    List.take_length_add_append, List.drop_length_add_append, List.append_assoc]

/-! ## The header of a CREATE TABLE -/

theorem readOpening_shift (k : Nat) (ts : List Token) :
    readOpening (ts.map (Token.shift k)) =
      (readOpening ts).map fun r => (r.1, r.2.1.shift k, r.2.2.map (Token.shift k)) := by
  rw [readOpening, readOpening, readTableName_shift]
  cases readTableName ts with
  | none => rfl
  | some name =>
    simp only [Option.map_some, Option.bind_some, NameReading.shift]
    cases name.rest with
    | nil => rfl
    | cons t rest =>
      simp only [List.map_cons, apply_ite (Option.map _), Option.map_some, Option.map_none]
      rfl

theorem readTableOpening_shift (k : Nat) (ts : List Token) :
    readTableOpening (ts.map (Token.shift k)) =
      (readTableOpening ts).map fun r => (r.1, r.2.1.shift k, r.2.2.map (Token.shift k)) := by
  rw [readTableOpening_eq, readTableOpening_eq, matchWords_shift]
  cases matchWords ["CREATE".toList] ts with
  | none => rfl
  | some r =>
    simp only [Option.map_some, Option.bind_some, skipWords_shift, matchWords_shift]
    cases matchWords ["TABLE".toList] _ with
    | none => rfl
    | some r => simp only [Option.map_some, Option.bind_some, skipWords_shift, readOpening_shift]

theorem slice_indent (w sql : Text) (start stop : Nat) :
    slice (w ++ sql) (start + w.length) (stop + w.length) = slice sql start stop := by
  rw [slice, slice, Nat.add_sub_add_right, Nat.add_comm start, List.drop_length_add_append]

theorem readTableHeader_indent (w sql : Text) (ts : List Token) :
    readTableHeader (w ++ sql) (ts.map (Token.shift w.length)) = readTableHeader sql ts := by
  rw [readTableHeader, readTableHeader, readTableOpening_shift]
  cases readTableOpening ts with
  | none => rfl
  | some r =>
    simp only [Option.map_some, Option.bind_eq_bind, Option.bind_some, enclosed_shift]
    cases enclosed 0 r.2.2 with
    | none => rfl
    | some e => simp only [Option.map_some, Option.bind_some, Token.shift, slice_indent]

end Sql

/-- The error of a text `k` code points further on. -/
def InsertError.shift (k : Nat) : InsertError → InsertError
  | .unreadable cause => .unreadable (cause.shift k)
  | .unexpected actual => .unexpected actual

section Readers

variable {w : Text} (hw : ∀ c ∈ w, isBlank c = true) (sql : Text)

include hw

theorem readInsert_indent : readInsert (w ++ sql) =
    ((readInsert sql).map (Insert.indent w)).mapError (InsertError.shift w.length) := by
  rw [readInsert, readInsert, readStatement_indent hw]
  cases readStatement sql with
  | error e => rfl
  | ok s =>
    simp only [Except.map, mapError_ok, Statement.shift_tokens, readInsertHeader_indent]
    cases readInsertHeader sql s.tokens with
    | some i => rfl
    | none =>
      simp only [Option.map_none, classified_shift]
      cases hc : s.classified with
      | ok c => rfl
      | error e => simp only [mapError_error, InsertError.shift, shift_of_classified hc]

theorem readDefinition_indent : readDefinition (w ++ sql) =
    (readDefinition sql).mapError (ReadError.shift w.length) := by
  rw [readDefinition, readDefinition, readStatement_indent hw]
  cases readStatement sql with
  | error e => rfl
  | ok s =>
    simp only [Except.map, mapError_ok, Statement.shift_tokens, readTableHeader_indent]
    cases readTableHeader sql s.tokens with
    | some header => rfl
    | none =>
      simp only [classified_shift]
      cases hc : s.classified with
      | ok c => rfl
      | error e => simp only [mapError_error, shift_of_classified hc]

end Readers

/-- Blanks before a text move the offsets that are read from it and change nothing else: a text that cannot be
read cannot be read behind them, for the same fault further on, and what is read from one that can is the same
with its span moved, so that a new target is written into the same text behind the blanks. -/
theorem readInsert_indented {w : Text} (hw : ∀ c ∈ w, isBlank c = true) (sql : Text) :
    (∀ e, readInsert sql = .error e → readInsert (w ++ sql) = .error (e.shift w.length)) ∧
    (∀ i, readInsert sql = .ok i → ∃ j, readInsert (w ++ sql) = .ok j ∧ j.target = i.target ∧
      j.columns = i.columns ∧ j.overwrite = i.overwrite ∧ j.start = i.start + w.length ∧
      j.stop = i.stop + w.length ∧ ∀ target, (j.retarget target).render = w ++ (i.retarget target).render) ∧
    (∀ e, readDefinition sql = .error e → readDefinition (w ++ sql) = .error (e.shift w.length)) ∧
    ∀ d, readDefinition sql = .ok d → readDefinition (w ++ sql) = .ok d := by
  rw [readInsert_indent hw, readDefinition_indent hw]
  refine ⟨fun e he => ?_, fun i hi => ?_, fun e he => ?_, fun d hd => ?_⟩
  · rw [he]
    rfl
  · rw [hi]
    exact ⟨i.indent w, rfl, rfl, rfl, rfl, rfl, rfl, render_indent w i⟩
  · rw [he]
    rfl
  · rw [hd]
    rfl

/-- The margin of an indented statement. -/
def margin : Text := "\n\t ".toList

theorem readInsert_indented_margin : (∀ c ∈ margin, isBlank c = true) ∧
    (∃ i j, readInsert "INSERT OVERWRITE s.t (a, b) SELECT 1".toList = .ok i ∧
      readInsert (margin ++ "INSERT OVERWRITE s.t (a, b) SELECT 1".toList) = .ok j ∧
      j.target = ⟨none, some "s".toList, "t".toList⟩ ∧ j.columns = ["a".toList, "b".toList] ∧
      j.overwrite = true ∧ j.start = 20 ∧ j.stop = 23 ∧
      (j.retarget ⟨none, none, "m".toList⟩).render =
        margin ++ "INSERT OVERWRITE m (a, b) SELECT 1".toList) ∧
    readInsert (margin ++ "SELECT 1)".toList) = .error (.unreadable (.unbalanced 11)) ∧
    readDefinition (margin ++ "CREATE TABLE t (a INT) WITH)".toList) = .error (.unbalanced 30) := by
  have hw : ∀ c ∈ margin, isBlank c = true := by decide
  have hread : (readInsert "INSERT OVERWRITE s.t (a, b) SELECT 1".toList).toOption.any (fun i =>
      i.target = ⟨none, some "s".toList, "t".toList⟩ ∧ i.columns = ["a".toList, "b".toList] ∧
      i.overwrite = true ∧ i.start = 17 ∧ i.stop = 20 ∧ (i.retarget ⟨none, none, "m".toList⟩).render =
        "INSERT OVERWRITE m (a, b) SELECT 1".toList) = true := by decide +kernel
  obtain ⟨i, hi, hread⟩ := (Option.any_eq_true _ _).1 hread
  obtain ⟨htarget, hcolumns, hoverwrite, hstart, hstop, hrender⟩ := of_decide_eq_true hread
  have hi := eq_ok_of_toOption hi
  obtain ⟨j, hj, htarget', hcolumns', hoverwrite', hstart', hstop', hrender'⟩ :=
    (readInsert_indented hw _).2.1 i hi
  refine ⟨hw, ⟨i, j, hi, hj, htarget'.trans htarget, hcolumns'.trans hcolumns, hoverwrite'.trans hoverwrite,
    by rw [hstart', hstart]; rfl, by rw [hstop', hstop]; rfl, by rw [hrender', hrender]⟩, ?_, ?_⟩
  · exact (readInsert_indented hw _).1 (.unreadable (.unbalanced 8)) rfl
  · exact (readInsert_indented hw _).2.2.1 (.unbalanced 27) rfl

end DryRun
