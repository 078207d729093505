import DryRun.Proofs.Reading.InsertSyntax

/-!
# The column list of an INSERT

The parenthesis after the target of an INSERT opens a column list if names stand in it that are separated by
commas, and a query or something else if not. One comma behind the last name is passed over, so that a list
that is not finished is taken for a column list as well; nothing else is (`columnsAhead_list`).
-/

namespace DryRun

open Text Sql

namespace Sql

/-- Names with a comma between each two of them: the names, and the tokens with the commas. -/
inductive NameList : List Token → List Token → Prop where
  | one {n : Token} (hn : n.isName = true) : NameList [n] [n]
  | cons {n comma : Token} {names list : List Token} (hn : n.isName = true) (hcomma : comma.kind = .comma)
      (h : NameList names list) : NameList (n :: names) (n :: comma :: list)

/-- Nothing, or a single comma. -/
def IsLooseEnd (ts : List Token) : Prop := ts = [] ∨ ∃ comma, ts = [comma] ∧ comma.kind = .comma

/-- Tokens that are taken for a column list: names separated by commas and a loose end, where no name is the
word `SELECT` without quotes. -/
structure ListsColumns (names ts : List Token) : Prop where
  split : ∃ list tail, ts = list ++ tail ∧ NameList names list ∧ IsLooseEnd tail
  none_selects : ∀ n ∈ names, n.spells "SELECT".toList = false

theorem NameList.ne_nil {names list : List Token} (h : NameList names list) : names ≠ [] ∧ list ≠ [] := by
  cases h <;> simp

theorem ListsColumns.ne_nil {names ts : List Token} (h : ListsColumns names ts) : names ≠ [] := by
  obtain ⟨list, tail, -, hlist, -⟩ := h.split
  exact hlist.ne_nil.1

theorem isColumn_iff {t : Token} :
    columnNames?.isColumn t = true ↔ t.isName = true ∧ t.spells "SELECT".toList = false := by
  rw [columnNames?.isColumn, Lexeme.spells, Bool.and_eq_true]
  cases t.isQuoted <;> simp

/-- Names separated by commas are read as columns, whatever loose end they have. -/
theorem NameList.columnNames?_eq {names list tail : List Token} (h : NameList names list)
    (htail : IsLooseEnd tail) (hselects : ∀ n ∈ names, n.spells "SELECT".toList = false) :
    columnNames? (list ++ tail) = some (names.map (·.text)) := by
  induction h with
  | @one n hn =>
    have hcolumn := isColumn_iff.2 ⟨hn, hselects n List.mem_cons_self⟩
    rcases htail with rfl | ⟨comma, rfl, hcomma⟩
    · simp [columnNames?, hcolumn]
    · simp [columnNames?, hcolumn, hcomma]
  | @cons n comma names list hn hcomma h ih =>
    obtain ⟨hselect, hselects⟩ := List.forall_mem_cons.1 hselects
    have hcolumn := isColumn_iff.2 ⟨hn, hselect⟩
    have hmore : (list ++ tail).isEmpty = false := by simp [h.ne_nil.2]
    simp [columnNames?, hcolumn, hcomma, hmore, ih hselects]

theorem exists_listsColumns {ts : List Token} {texts : List Text} (h : columnNames? ts = some texts) :
    ∃ names, ListsColumns names ts ∧ texts = names.map (·.text) := by
  -- the three ways to accept differ in what stands behind the first name
  have hone : ∀ {n tail}, columnNames?.isColumn n = true → IsLooseEnd tail → ListsColumns [n] (n :: tail) := by
    intro n tail hn htail
    obtain ⟨hname, hselect⟩ := isColumn_iff.1 hn
    exact ⟨⟨[n], tail, rfl, .one hname, htail⟩, by simpa using hselect⟩
  fun_induction columnNames? ts generalizing texts with
  | case1 | case3 | case6 => cases h
  | case2 n hn =>
    cases h
    exact ⟨[n], hone hn (.inl rfl), rfl⟩
  | case4 n s rest hn hrest =>
    cases h
    simp only [Bool.and_eq_true, beq_iff_eq] at hn
    rw [List.isEmpty_iff.1 hrest]
    exact ⟨[n], hone hn.1 (.inr ⟨s, rfl, hn.2⟩), rfl⟩
  | case5 n s rest hn hrest ih =>
    obtain ⟨texts, ht, rfl⟩ := Option.map_eq_some_iff.1 h
    obtain ⟨names, ⟨⟨list, tail, rfl, hlist, htail⟩, hselects⟩, rfl⟩ := ih ht
    simp only [Bool.and_eq_true, beq_iff_eq] at hn
    obtain ⟨hname, hselect⟩ := isColumn_iff.1 hn.1
    exact ⟨n :: names, ⟨⟨n :: s :: list, tail, rfl, .cons hname hn.2 hlist, htail⟩,
      List.forall_mem_cons.2 ⟨hselect, hselects⟩⟩, rfl⟩

theorem columnNames?_eq_some {ts : List Token} {texts : List Text} :
    columnNames? ts = some texts ↔ ∃ names, ListsColumns names ts ∧ texts = names.map (·.text) := by
  refine ⟨exists_listsColumns, ?_⟩
  rintro ⟨names, ⟨⟨list, tail, rfl, hlist, htail⟩, hselects⟩, rfl⟩
  exact hlist.columnNames?_eq htail hselects

theorem columnsAhead_cons {opening closing : Token} {inner after : List Token} (ho : opening.kind = .leftParen)
    (h : Closes opening inner closing) :
    columnsAhead (opening :: (inner ++ closing :: after)) = (columnNames? inner).getD [] := by
  have henclosed : enclosed 0 (inner ++ closing :: after) = some (inner, closing, after) :=
    (enclosed_iff_closes ho).2 ⟨rfl, h⟩
  simp only [columnsAhead, List.drop_succ_cons, List.drop_zero, henclosed]

/-- Without a comma at the end there is no loose end. -/
theorem listsColumns_iff {names ts : List Token} (hlast : ∀ t, ts.getLast? = some t → t.kind ≠ .comma) :
    ListsColumns names ts ↔ NameList names ts ∧ ∀ n ∈ names, n.spells "SELECT".toList = false := by
  constructor
  · rintro ⟨⟨list, tail, rfl, hlist, rfl | ⟨comma, rfl, hcomma⟩⟩, hselects⟩
    · exact ⟨by rwa [List.append_nil], hselects⟩
    · exact absurd hcomma (hlast comma (by simp))
  · rintro ⟨hlist, hselects⟩
    exact ⟨⟨ts, [], by simp, hlist, .inl rfl⟩, hselects⟩

end Sql

/-- The columns in a parenthesis of a balanced list are the names in it, if they are separated by commas and
none is the word `SELECT`; there are none if anything else stands in it. Only for what ends in a comma this is
not so: there the names before that comma count. -/
theorem columnsAhead_list {before rest : List Token} {opening : Token}
    (hbalanced : Balanced (before ++ opening :: rest)) (hopening : opening.kind = .leftParen) :
    ∃ inner closing after, rest = inner ++ closing :: after ∧ Closes opening inner closing ∧
      (columnsAhead (opening :: rest) ≠ [] ↔ ∃ names, ListsColumns names inner) ∧
      (∀ names, ListsColumns names inner → columnsAhead (opening :: rest) = names.map (·.text)) ∧
      ((∀ t, inner.getLast? = some t → t.kind ≠ .comma) → ∀ names, ListsColumns names inner ↔
        NameList names inner ∧ ∀ n ∈ names, n.spells "SELECT".toList = false) := by
  obtain ⟨inner, closing, after, rfl, hcloses⟩ := hbalanced.exists_closes hopening
  have hlisted : ∀ names, ListsColumns names inner → columnNames? inner = some (names.map (·.text)) :=
    fun names h => columnNames?_eq_some.2 ⟨names, h, rfl⟩
  rw [columnsAhead_cons hopening hcloses]
  refine ⟨inner, closing, after, rfl, hcloses, ⟨fun hne => ?_, ?_⟩, fun names h => ?_,
    fun hlast names => listsColumns_iff hlast⟩
  · cases hread : columnNames? inner with
    | none =>
      rw [hread] at hne
      exact absurd rfl hne
    | some texts =>
      obtain ⟨names, h, -⟩ := columnNames?_eq_some.1 hread
      exact ⟨names, h⟩
  · rintro ⟨names, h⟩
    rw [hlisted names h]
    simpa using h.ne_nil
  · rw [hlisted names h]
    rfl

/-- An INSERT into two columns, of which one is quoted. -/
def quotedColumns : Text := "INSERT INTO t (a, `select`) SELECT (1)".toList

theorem columnsAhead_list_quoted : ∃ tokens before opening rest, Sql.tokens quotedColumns = .ok tokens ∧
    tokens = before ++ opening :: rest ∧ Balanced tokens ∧ opening.kind = .leftParen ∧
    columnsAhead (opening :: rest) = ["a".toList, "select".toList] ∧
    ∃ inner names, NameList names inner ∧ inner <+: rest ∧ names.map (·.text) = ["a".toList, "select".toList] := by
  have hread : (Sql.tokens quotedColumns).toOption.any (fun ts =>
      ts = ts.take 3 ++ ⟨⟨.leftParen, ['(']⟩, 14, 15⟩ :: ts.drop 4 ∧
      level 0 (ts.map (·.kind)) = some 0 ∧
      (enclosed 0 (ts.drop 4)).any (fun r => r.1.getLast?.all (·.kind != .comma)) ∧
      columnsAhead (⟨⟨.leftParen, ['(']⟩, 14, 15⟩ :: ts.drop 4) = ["a".toList, "select".toList]) = true := by
    decide +kernel
  obtain ⟨ts, hts, hread⟩ := (Option.any_eq_true _ _).1 hread
  obtain ⟨hsplit, hlevel, hlast, hcolumns⟩ := of_decide_eq_true hread
  have hbalanced := balanced_iff.2 hlevel
  refine ⟨ts, _, _, _, eq_ok_of_toOption hts, hsplit, hbalanced, rfl, hcolumns, ?_⟩
  rw [hsplit] at hbalanced
  obtain ⟨inner, closing, after, hrest, hcloses, hiff, htexts, hexact⟩ := columnsAhead_list hbalanced rfl
  obtain ⟨names, h⟩ := hiff.1 (by rw [hcolumns]; simp)
  have henclosed : enclosed 0 (ts.drop 4) = some (inner, closing, after) :=
    (enclosed_iff_closes rfl).2 ⟨hrest, hcloses⟩
  rw [henclosed] at hlast
  refine ⟨inner, names, ((hexact (fun t ht => ?_) names).1 h).1, ⟨closing :: after, hrest.symm⟩, ?_⟩
  · rw [Option.any_some, ht] at hlast
    simpa using hlast
  · rw [← htexts names h, hcolumns]

/-- An INSERT with a comma behind its only column. -/
def unfinishedColumns : Text := "INSERT INTO t (a,) SELECT 1".toList

/-- The column is read, though the tokens in the parenthesis are no names with commas between them. -/
theorem columnsAhead_unfinished : ∃ tokens before opening inner closing after,
    Sql.tokens unfinishedColumns = .ok tokens ∧ Balanced tokens ∧
    tokens = before ++ opening :: (inner ++ closing :: after) ∧ Closes opening inner closing ∧
    (∀ names, ¬ NameList names inner) ∧
    columnsAhead (opening :: (inner ++ closing :: after)) = ["a".toList] ∧
    (readInsert unfinishedColumns).toOption.map (·.columns) = some ["a".toList] := by
  have hread : (Sql.tokens unfinishedColumns).toOption.any (fun ts =>
      level 0 (ts.map (·.kind)) = some 0 ∧
      ts = ts.take 3 ++ ⟨⟨.leftParen, ['(']⟩, 14, 15⟩ :: ([⟨⟨.word, ['a']⟩, 15, 16⟩, ⟨⟨.comma, [',']⟩, 16, 17⟩] ++
        ⟨⟨.rightParen, [')']⟩, 17, 18⟩ :: ts.drop 7)) = true := by decide +kernel
  obtain ⟨ts, hts, hread⟩ := (Option.any_eq_true _ _).1 hread
  obtain ⟨hlevel, hsplit⟩ := of_decide_eq_true hread
  refine ⟨ts, _, _, _, _, _, eq_ok_of_toOption hts, balanced_iff.2 hlevel, hsplit,
    (closes_iff rfl).2 ⟨rfl, balanced_iff.2 rfl⟩, fun names h => ?_, ?_, by decide +kernel⟩
  · cases h with
    | cons hn hcomma h => cases h
  · rw [columnsAhead_cons rfl ((closes_iff rfl).2 ⟨rfl, balanced_iff.2 rfl⟩)]
    rfl

end DryRun
