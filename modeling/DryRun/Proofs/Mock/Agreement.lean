import DryRun.Proofs.Mock.Definition
import DryRun.Proofs.Session.Prepare

/-!
# Transforms and definitions meet in the mock

A session writes the name of a mock twice: into the transform that fills it and into the definition that
creates it. For a sink with a quoted name both statements are read back here. They name the mock of the
sink exactly if its name holds plain characters only, since a definition puts no name in back-ticks.
-/

namespace DryRun

open Text Sql

/-! ## A sink with a quoted name -/

/-- The definition of a table with a quoted name and one column. -/
def quotedDefinition (n : Text) : Text :=
  "CREATE TABLE ".toList ++ (TableRef.quote n ++ " (id INT)".toList)

/-- The INSERT into a table with a quoted name. -/
def quotedInsert (n : Text) : Text := "INSERT INTO ".toList ++ (TableRef.quote n ++ " SELECT 1".toList)

theorem opensTable_quoted (n : Text) :
    OpensTable [⟨.word, "CREATE".toList⟩, ⟨.word, "TABLE".toList⟩, ⟨.quotedName, n⟩] ⟨none, none, n⟩ := by
  intro M o rest hM ho
  obtain ⟨c, M, rfl, hc, hM⟩ := List.map_eq_cons_iff.1 hM
  obtain ⟨t, M, rfl, ht, hM⟩ := List.map_eq_cons_iff.1 hM
  obtain ⟨x, M, rfl, hx, hM⟩ := List.map_eq_cons_iff.1 hM
  obtain rfl := List.map_eq_nil_iff.1 hM
  have hrest : ∀ s, (o :: rest).head? = some s → s.kind ≠ .dot := fun s hs => by
    cases hs
    rw [ho]
    decide
  have hname := readTableName_one (x := x) (by rw [hx]; rfl) hrest
  rw [hx] at hname
  exact (readTableOpening_name hc ht (.inl (by rw [hx]; rfl)) _).trans
    (readOpening_eq_some.2 ⟨_, hname, rfl, rfl, ho⟩)

theorem readDefinition_quoted (n : Text) :
    readDefinition (quotedDefinition n) =
      .ok ⟨.create, "TABLE".toList, some ⟨none, none, n⟩, "id INT".toList⟩ := by
  have hreads (y : Text) : Reads ('(' :: y) none ("CREATE TABLE ".toList ++ (TableRef.quote n ++ " ".toList))
      [⟨.word, "CREATE".toList⟩, ⟨.word, "TABLE".toList⟩, ⟨.quotedName, n⟩] (some ⟨.quotedName, n⟩) := by
    refine .word (w := "CREATE".toList) (x := " TABLE ".toList ++ (TableRef.quote n ++ " ".toList))
      (by decide) rfl rfl (.blank (by decide) ?_)
    refine .word (w := "TABLE".toList) (x := " ".toList ++ (TableRef.quote n ++ " ".toList))
      (by decide) rfl rfl (.blank (by decide) ?_)
    exact .quote (fun h => absurd (Option.some.inj h) (by decide)) (.blank (by decide) .nil)
  have h := readDefinition_of_parens (hreads _) rfl (by simp) (opensTable_quoted n) columns_id rfl .nil rfl
  rw [List.append_assoc, List.append_assoc] at h
  exact h

/-- The lexemes of a query for one number. -/
def selectLexemes : List Lexeme := [⟨.word, "SELECT".toList⟩, ⟨.number, "1".toList⟩]

theorem reads_select {p : Option Lexeme} (hp : p.any Lexeme.isSigil = false) :
    Reads [] p " SELECT 1".toList selectLexemes (some ⟨.number, "1".toList⟩) := by
  refine .blank (by decide) ?_
  refine .word (w := "SELECT".toList) (x := " 1".toList) (by decide) hp rfl (.blank (by decide) ?_)
  exact .lexeme (c := '1') (u := []) (x := []) (K := [⟨.number, "1".toList⟩]) (by decide) rfl rfl .nil

theorem reads_insert (y : Text) : Reads y none "INSERT INTO ".toList
    [⟨.word, "INSERT".toList⟩, ⟨.word, "INTO".toList⟩] (some ⟨.word, "INTO".toList⟩) := by
  refine .word (w := "INSERT".toList) (x := " INTO ".toList) (by decide) rfl rfl (.blank (by decide) ?_)
  exact .word (w := "INTO".toList) (x := " ".toList) (by decide) rfl rfl (.blank (by decide) .nil)

theorem heading_insert {M : List Token}
    (hM : M.map Token.toLexeme = [⟨.word, "INSERT".toList⟩, ⟨.word, "INTO".toList⟩]) : Heading false M := by
  obtain ⟨a, M, rfl, ha, hM⟩ := List.map_eq_cons_iff.1 hM
  obtain ⟨v, M, rfl, hv, hM⟩ := List.map_eq_cons_iff.1 hM
  obtain rfl := List.map_eq_nil_iff.1 hM
  have hA : Spells "INSERT".toList [a] := .word (by rw [ha]; decide) (by rw [ha]; decide)
  have hV : Spells (verbWord false) [v] := .word (by rw [hv]; decide) (by rw [hv]; decide)
  exact .mk (H := []) (T := []) hA (by simp) hV (fun t ht => by cases ht; rw [hv]; decide) (.inl rfl)

/-- After `INSERT INTO` and in front of a query, a name is read as the target. -/
theorem readInsert_of_name {sql : Text} {M₁ T M₃ : List Token} {b : Token} {L : List Lexeme}
    {name : NameReading} (hscan : scan sql = .ok (M₁ ++ (b :: T ++ M₃)))
    (hM₁ : M₁.map Token.toLexeme = [⟨.word, "INSERT".toList⟩, ⟨.word, "INTO".toList⟩])
    (hL : (b :: T).map Token.toLexeme = L) (hquiet : isQuiet L = true)
    (hM₃ : M₃.map Token.toLexeme = selectLexemes) (hb : isFirstName b = true)
    (hname : readTableName (b :: T ++ M₃) = some name) (hrest : name.rest = M₃) :
    readInsert sql = .ok ⟨name.ref, sql, name.start, name.stop, [], false⟩ := by
  have hall : (M₁ ++ (b :: T ++ M₃)).map Token.toLexeme =
      [⟨.word, "INSERT".toList⟩, ⟨.word, "INTO".toList⟩] ++ (L ++ selectLexemes) := by
    rw [List.map_append, List.map_append, hM₁, hL, hM₃]
  obtain ⟨c, hstatement⟩ := readStatement_quiet hall
    (isQuiet_append rfl (isQuiet_append hquiet rfl)) hscan (by simp)
  obtain ⟨sel, M, rfl, hsel, -⟩ := List.map_eq_cons_iff.1 hM₃
  have hheader : readInsertHeader sql (M₁ ++ (b :: T ++ sel :: M)) =
      some ⟨name.ref, sql, name.start, name.stop, [], false⟩ :=
    ((heading_insert hM₁).read sql hb _).trans (readInto_select hname hrest hsel)
  rw [readInsert, hstatement]
  simp only [hheader]

theorem not_dot_select {M : List Token} (hM : M.map Token.toLexeme = selectLexemes) :
    ∀ s, M.head? = some s → s.kind ≠ .dot := by
  obtain ⟨sel, M, rfl, hsel, -⟩ := List.map_eq_cons_iff.1 hM
  intro s hs
  cases hs
  rw [hsel]
  decide

theorem readInsert_quoted (n : Text) :
    readInsert (quotedInsert n) =
      .ok ⟨⟨none, none, n⟩, quotedInsert n, 12, 12 + (TableRef.quote n).length, [], false⟩ := by
  have hz : " SELECT 1".toList.head? ≠ some '\x60' := by decide
  obtain ⟨M₁, M₃, hM₁, hM₃, hscan⟩ :=
    scan_quote (reads_insert _) hz (reads_select (p := some ⟨.quotedName, n⟩) rfl)
  exact readInsert_of_name (T := []) hscan hM₁ rfl rfl hM₃ rfl
    (readTableName_one rfl (not_dot_select hM₃)) rfl

/-! ## The statements of the prepared job -/

theorem render_between (x y z : Text) (i : Insert) (hsql : i.sql = x ++ (y ++ z)) (hstart : i.start = x.length)
    (hstop : i.stop = x.length + y.length) : i.render = x ++ (i.target.render ++ z) := by
  rw [Insert.render, hsql, hstart, hstop, List.take_left, ← List.drop_drop, List.drop_left, List.drop_left,
    List.append_assoc]

/-- The INSERT into the mock of the sink. -/
def mockedInsert (n : Text) : Text := "INSERT INTO ".toList ++ ((Mock.ref n).render ++ " SELECT 1".toList)

/-- The definition of the mock of the sink. -/
def mockedDefinition (n : Text) : Text := Mock.createTable n "id INT".toList Mock.defaultConnector

theorem redirectTransform_quoted (n : Text) :
    redirectTransform ⟨quotedInsert n, .insert⟩ =
      (⟨⟨quotedInsert n, .insert⟩, .redirected ⟨mockedInsert n, .insert⟩ n⟩, []) := by
  have hvalue : mockInsert ⟨⟨none, none, n⟩, quotedInsert n, 12, 12 + (TableRef.quote n).length, [], false⟩ =
      ⟨mockedInsert n, .insert⟩ := by
    rw [mockInsert, render_between "INSERT INTO ".toList (TableRef.quote n) " SELECT 1".toList _ rfl rfl rfl]
    rfl
  rw [redirectTransform, readInsert_quoted, ← hvalue]
  rfl

theorem mockDefinition_quoted (n : Text) (type : StatementType) :
    mockDefinition Mock.defaultConnector [n] ⟨quotedDefinition n, type⟩ =
      .mocked ⟨mockedDefinition n, .create⟩ n := by
  have hcreate : (⟨.create, "TABLE".toList, some ⟨none, none, n⟩, "id INT".toList⟩ :
    Definition).isCreateTable = true := rfl
  rw [mockDefinition, readDefinition_quoted]
  dsimp only
  rw [hcreate, if_pos (by simp)]
  rfl

/-- The prepared job holds the definition and the INSERT of the mock. -/
theorem prepare_quoted (policy : FailurePolicy) (job : Job) (type : StatementType) (n : Text) :
    ∃ report, ((⟨true, Mock.defaultConnector, policy⟩ : Session).prepare
        { job with ddl := [⟨quotedDefinition n, type⟩], trans := [⟨quotedInsert n, .insert⟩] }).value =
      .ok ({ job with ddl := [⟨mockedDefinition n, .create⟩], trans := [⟨mockedInsert n, .insert⟩] },
        report) := by
  generalize hj : { job with
    ddl := [⟨quotedDefinition n, type⟩], trans := [⟨quotedInsert n, .insert⟩] } = given
  generalize hs : (⟨true, Mock.defaultConnector, policy⟩ : Session) = s
  have htrans : Session.transforms given =
      ⟨[⟨⟨quotedInsert n, .insert⟩, .redirected ⟨mockedInsert n, .insert⟩ n⟩]⟩ := by
    rw [Session.transforms, ← hj, scanTransforms, List.map_singleton, redirectTransform_quoted]
    rfl
  have hddl : s.definitions given =
      [⟨⟨quotedDefinition n, type⟩, .mocked ⟨mockedDefinition n, .create⟩ n⟩] := by
    have htables : (Session.transforms given).tables = [n] := by rw [htrans]; rfl
    rw [Session.definitions, htables, ← hs, ← hj, scanDefinitions, List.map_singleton,
      mockDefinition_quoted]
  have habort : s.aborted? given = none := by
    rw [Session.aborted?, hddl]
    split <;> rfl
  have hmocked : s.mocked given =
      { job with ddl := [⟨mockedDefinition n, .create⟩], trans := [⟨mockedInsert n, .insert⟩] } := by
    rw [Session.mocked, hddl, htrans, ← hj]
    rfl
  refine ⟨Session.report (Session.transforms given) (s.definitions given), ?_⟩
  rw [Session.prepare, if_pos (by rw [← hs]), Session.mock_value, habort, hmocked]

/-- The INSERT into the mock of a plain name is read back. -/
theorem readInsert_mocked {n : Text} (hn : n.all isPlainChar = true) :
    ∃ i, readInsert (mockedInsert n) = .ok i ∧ i.target = Mock.ref n := by
  have hreads := (reads_insert _).append (Mock.reads_name hn rfl rfl
    (reads_select (p := some ⟨.word, Mock.mark ++ n⟩) rfl))
  obtain ⟨M, hM, hscan⟩ := scan_of_reads hreads 0
  obtain ⟨M₁, M', rfl, hM₁, hM'⟩ := List.map_eq_append_iff.1 hM
  obtain ⟨P, M'', rfl, hP, hM''⟩ := List.map_eq_append_iff.1 hM'
  obtain ⟨x, M₃, rfl, hx, hM₃⟩ := List.map_eq_cons_iff.1 hM''
  obtain ⟨w₁, d₁, w₂, d₂, rfl, place⟩ := Mock.exists_place hP
  have hname := place.readTableName (x := x) (by rw [hx]; exact Mock.isName_mark hn) (not_dot_select hM₃)
  have hL : ([w₁, d₁, w₂, d₂] ++ [x]).map Token.toLexeme =
      Mock.placeLexemes ++ [⟨.word, Mock.mark ++ n⟩] := by
    rw [List.map_append, hP, List.map_singleton, hx]
  have hread := readInsert_of_name (T := [d₁, w₂, d₂, x]) hscan hM₁ hL rfl hM₃ place.isFirstName hname rfl
  have htarget : (⟨some Mock.catalog, some Mock.schema, x.text⟩ : TableRef) = Mock.ref n := by rw [hx]; rfl
  have hsql : mockedInsert n = "INSERT INTO ".toList ++ (Mock.name n ++ " SELECT 1".toList) :=
    congrArg (fun name => "INSERT INTO ".toList ++ (name ++ " SELECT 1".toList)) (Mock.render_of_isPlain hn)
  rw [hsql]
  exact ⟨_, hread, htarget⟩

/-- The prepared job defines and fills the same mock exactly if the name of the sink is plain: all other
names are put in back-ticks in the transform only. -/
theorem prepare_agrees (policy : FailurePolicy) (job : Job) (type : StatementType) (n : Text) :
    ∃ prepared report definition transform,
      ((⟨true, Mock.defaultConnector, policy⟩ : Session).prepare
        { job with ddl := [⟨quotedDefinition n, type⟩], trans := [⟨quotedInsert n, .insert⟩] }).value =
          .ok (prepared, report) ∧
      prepared.ddl = [definition] ∧ prepared.trans = [transform] ∧
      (((∃ d, readDefinition definition.value = .ok d ∧ d.isCreateTable = true ∧
          d.table = some (Mock.ref n)) ∧
        ∃ i, readInsert transform.value = .ok i ∧ i.target = Mock.ref n) ↔
      n.all isPlainChar = true) := by
  obtain ⟨report, hprepare⟩ := prepare_quoted policy job type n
  refine ⟨_, report, _, _, hprepare, rfl, rfl, ?_, fun hn => ⟨?_, readInsert_mocked hn⟩⟩
  · rintro ⟨⟨d, hd, hcreate, htable⟩, -⟩
    exact Mock.isPlain_of_readDefinition hd hcreate htable
  · exact ⟨_, Mock.readDefinition_createTable hn columns_id (by decide) rfl, rfl, rfl⟩

/-- A blank behind the name is kept by the transform and lost by the definition. -/
theorem prepare_disagrees :
    ∃ prepared report, ((⟨true, Mock.defaultConnector, .passThrough⟩ : Session).prepare
        ⟨[], [⟨quotedDefinition "a ".toList, .create⟩], [⟨quotedInsert "a ".toList, .insert⟩], []⟩).value =
          .ok (prepared, report) ∧
      prepared.ddl.map (fun s => (readDefinition s.value).toOption.bind (·.table)) =
        [some (Mock.ref "a".toList)] ∧
      prepared.trans.map (fun s => (readInsert s.value).toOption.map (·.target)) =
        [some (Mock.ref "a ".toList)] := by
  obtain ⟨report, hprepare⟩ := prepare_quoted .passThrough ⟨[], [], [], []⟩ .create "a ".toList
  exact ⟨_, report, hprepare, rfl, rfl⟩

end DryRun
