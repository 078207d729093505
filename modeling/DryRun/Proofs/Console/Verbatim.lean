import DryRun.Proofs.Console.Rows

/-!
# Texts that are shown as they are

Names of tables and statements are read as markup where they are shown. On a console with room for them, a report
and a list of statements are shown just if the tags in all these texts match and can be looked up, and each text
then stands in its row or after its label as it is just if it is literal.
-/

namespace DryRun.Console

open Text Markup

variable {screen : Screen}

/-! ## Tables of a report -/

/-- What is shown for the definition of a table. -/
def markText (r : Report) (table : Text) : Text :=
  if r.tablesWithoutDdl.contains table then "missing".toList else "yes".toList

theorem printable_markText (r : Report) (table : Text) : Printable (markText r table) := by
  unfold markText
  split <;> decide

theorem active_markText (r : Report) (table : Text) : active (markText r table) = 0 := by
  unfold markText
  split <;> rfl

theorem isStyle_red : IsStyle "red".toList := by decide +kernel

theorem isStyle_yellow : IsStyle "yellow".toList := by decide +kernel

theorem isStyle_green : IsStyle "green".toList := by decide +kernel

theorem ddlMark_eq (r : Report) (table : Text) :
    ∃ style, IsStyle style ∧ IsLabel (markText r table) ∧ ddlMark r table = styled style (markText r table) := by
  have hmissing : "[yellow]missing[/yellow]".toList = styled "yellow".toList "missing".toList := by decide
  have hyes : "[green]yes[/green]".toList = styled "green".toList "yes".toList := by decide
  rw [ddlMark, markText]
  split
  · exact ⟨_, isStyle_yellow, ⟨by decide, by decide, by decide⟩, hmissing⟩
  · exact ⟨_, isStyle_green, ⟨by decide, by decide, by decide⟩, hyes⟩

theorem plain_ddlMark (r : Report) (table : Text) :
    Markup.plain screen.evaluates (ddlMark r table) = .ok (markText r table) := by
  obtain ⟨style, hstyle, hlabel, hmark⟩ := ddlMark_eq r table
  rw [hmark]
  exact plain_styled hstyle hlabel

theorem drawn_ddlMark (r : Report) (table : Text) : ∃ p, screen.drawn (ddlMark r table) = .ok p := by
  obtain ⟨style, hstyle, hlabel, hmark⟩ := ddlMark_eq r table
  refine ⟨_, drawn_eq_ok_iff.2 ⟨plain_ddlMark r table, ?_⟩⟩
  rw [hmark]
  exact (looksUp_styled hstyle hlabel).drawFault?

/-- The column of names, with the texts that are shown for them. -/
def nameColumn (names : List Text) : Column := { header := "Table".toList, cells := names }

/-- The column of marks, with the texts that are shown for them. -/
def markColumn (r : Report) : Column :=
  { header := "Mock DDL".toList, cells := r.mockedTables.map (markText r) }

theorem nameColumn_cells (names : List Text) : (nameColumn names).cells = names := rfl

theorem markColumn_cells (r : Report) : (markColumn r).cells = r.mockedTables.map (markText r) := rfl

theorem map_ddlMark (r : Report) (tables : List Text) :
    (tables.map (ddlMark r)).map (Markup.plain screen.evaluates) = (tables.map (markText r)).map .ok := by
  rw [List.map_map, List.map_map]
  refine List.map_congr_left fun table _ => ?_
  rw [Function.comp_apply, Function.comp_apply, plain_ddlMark]

theorem plain_tablesGrid {r : Report} {columns : List Column} :
    (tablesGrid r).columns.mapM (Column.plain screen) = .ok columns ↔
      ∃ names, r.mockedTables.map (Markup.plain screen.evaluates) = names.map .ok ∧
        columns = [nameColumn names, markColumn r] := by
  have htable : Markup.plain screen.evaluates "Table".toList = .ok "Table".toList := rfl
  have hddl : Markup.plain screen.evaluates "Mock DDL".toList = .ok "Mock DDL".toList := rfl
  have hcolumns {names : List Text} (h : r.mockedTables.map (Markup.plain screen.evaluates) = names.map .ok) :
      (tablesGrid r).columns.mapM (Column.plain screen) = .ok [nameColumn names, markColumn r] := by
    refine mapM_cons_eq_ok_iff.2 ⟨_, _, (Column.plain_eq_ok_iff htable).2 ⟨names, h, rfl⟩, ?_, rfl⟩
    exact mapM_cons_eq_ok_iff.2 ⟨_, _, (Column.plain_eq_ok_iff hddl).2 ⟨_, map_ddlMark r _, rfl⟩, rfl, rfl⟩
  constructor
  · intro h
    obtain ⟨_, _, hfirst, -, -⟩ := mapM_cons_eq_ok_iff.1 h
    obtain ⟨names, hnames, -⟩ := (Column.plain_eq_ok_iff htable).1 hfirst
    exact ⟨names, hnames, Except.ok.inj (h.symm.trans (hcolumns hnames))⟩
  · rintro ⟨names, hnames, rfl⟩
    exact hcolumns hnames

section Tables

variable {r : Report} (hprintable : ∀ t ∈ r.mockedTables, Printable t) {names : List Text}
  (hnames : r.mockedTables.map (Markup.plain screen.evaluates) = names.map .ok)

include hprintable hnames

theorem tableColumns_plain : ∀ c ∈ [nameColumn names, markColumn r], c.Plain := by
  have hmarks : ∀ t ∈ r.mockedTables.map (markText r), Printable t :=
    List.forall_mem_map.2 fun table _ => printable_markText r table
  refine List.forall_mem_cons.2 ⟨?_, List.forall_mem_singleton.2 ?_⟩
  · exact .of_printable (by decide) (by decide) (isPlaced_of_map_ok hnames hprintable)
  · exact .of_printable (by decide) (by decide) fun t ht => (hmarks t ht).isPlaced

/-- The row of a table in a report. -/
theorem tableColumns_row {i : Nat} {name : Text} (hname : r.mockedTables[i]? = some name) :
    ShownAs
      (tableRow [padRight ((nameColumn names).natural - 2) name,
        padRight ((markColumn r).natural - 2) (markText r name)])
      (rowText '│' [nameColumn names, markColumn r] fun c => c.cells.getD i []) name := by
  have ht := hprintable name (List.mem_of_getElem? hname)
  have hmark : (markColumn r).cells.getD i [] = markText r name := getD_map (markText r) hname
  have hcells := cells_getD_le (tableColumns_plain hprintable hnames) i
  obtain ⟨hnameCells, hmarkCells⟩ : Text.cells ((nameColumn names).cells.getD i []) + 2 ≤ (nameColumn names).natural ∧
      Text.cells ((markColumn r).cells.getD i []) + 2 ≤ (markColumn r).natural := by
    simpa using hcells
  refine ShownAs.of_plain ht (getD_of_map_ok hnames hname) ?_ (fun hsame => ?_) ?_
  · refine Nat.le_trans (active_rowText_le hcells) (Nat.le_of_eq ?_)
    simp only [List.map_cons, List.map_nil, sumOf_cons, hmark, active_markText]
    rfl
  · have hsame : (nameColumn names).cells.getD i [] = name := hsame
    rw [hsame] at hnameCells
    rw [hmark] at hmarkCells
    simp only [rowText, tableRow, List.flatMap_cons, List.flatMap_nil, hsame, hmark,
      Column.drawn_left ht hnameCells rfl, Column.drawn_left (printable_markText r name) hmarkCells rfl]
    simp
  · exact (infix_padRight _ _).trans (infix_tableRow List.mem_cons_self)

end Tables

/-! ## The panel of a report -/

theorem exists_countsPanel (r : Report) : ∃ lines, (countsPanel r).lines screen = .ok lines := by
  have hbold : IsStyle "bold".toList := by decide +kernel
  have hbody : (countsPanel r).body = styled "bold".toList "Inserts rewritten:".toList ++
      (' ' :: (Text.ofInt r.insertsRedirected ++ ['\n']) ++
        (styled "bold".toList "Mock DDL generated:".toList ++ ' ' :: Text.ofInt r.ddlMocked)) := by
    have hfirst : "[bold]Inserts rewritten:[/bold] ".toList =
        styled "bold".toList "Inserts rewritten:".toList ++ [' '] := by decide
    have hsecond : "\n[bold]Mock DDL generated:[/bold] ".toList =
        '\n' :: (styled "bold".toList "Mock DDL generated:".toList ++ [' ']) := by decide
    change "[bold]Inserts rewritten:[/bold] ".toList ++ Text.ofInt r.insertsRedirected ++
      "\n[bold]Mock DDL generated:[/bold] ".toList ++ Text.ofInt r.ddlMocked = _
    rw [hfirst, hsecond]
    simp
  have hinserts : IsPassed (' ' :: (Text.ofInt r.insertsRedirected ++ ['\n'])) :=
    isPassed_of_inactive <| List.forall_mem_cons.2
      ⟨by decide, List.forall_mem_append.2 ⟨isActive_ofInt _, List.forall_mem_singleton.2 (by decide)⟩⟩
  have hmocked : Shows screen.evaluates (' ' :: Text.ofInt r.ddlMocked) :=
    shows_of_inactive (List.forall_mem_cons.2 ⟨by decide, isActive_ofInt _⟩)
  have hlabel₁ : IsPassed "Inserts rewritten:".toList := by decide
  have hlabel₂ : IsPassed "Mock DDL generated:".toList := by decide
  have hnil : IsPassed [] := by decide
  have hshows := (shows_styled hbold hnil hlabel₁).2 ((shows_styled hbold hinserts hlabel₂).2 hmocked)
  rw [List.nil_append, ← hbody] at hshows
  obtain ⟨body, hdrawn⟩ := hshows.drawn
  rw [Panel.lines, hdrawn]
  exact ⟨_, rfl⟩

/-! ## Reports -/

/-- The texts of a report that are read as markup. -/
def reportTexts (r : Report) : List Text := r.mockedTables ++ r.droppedStatements ++ r.unparsedDdl

/-- The console has room for each table and each text of a report, as they are shown, on one line. -/
structure ReportFits (screen : Screen) (r : Report) : Prop where
  tables : (tablesGrid r).FitsIn screen
  dropped : ∀ s ∈ r.droppedStatements, ∀ q,
    Markup.plain screen.evaluates (droppedLine s) = .ok q → Text.cells q ≤ screen.width
  unparsed : ∀ s ∈ r.unparsedDdl, ∀ q,
    Markup.plain screen.evaluates (unparsedLine s) = .ok q → Text.cells q ≤ screen.width

/-- Each table has its row, and each transform that was dropped and each definition that was kept its line. -/
def ReportShown (r : Report) (lines : List Text) : Prop :=
  ∃ front rows foot dropped unparsed w₁ w₂, lines = front ++ rows ++ foot ++ dropped ++ unparsed ∧
    List.Forall₂
      (fun name row => ShownAs (tableRow [padRight w₁ name, padRight w₂ (markText r name)]) row name)
      r.mockedTables rows ∧
    List.Forall₂ (fun s line => line = "Dropped unparseable transform:".toList ++ ' ' :: s ↔ Literal s)
      r.droppedStatements dropped ∧
    List.Forall₂ (fun s line => line = "Kept unparseable DDL unchanged:".toList ++ ' ' :: s ↔ Literal s)
      r.unparsedDdl unparsed

section Labels

theorem isLabel_dropped : IsLabel "Dropped unparseable transform:".toList := ⟨by decide, by decide, by decide⟩

theorem isLabel_unparsed : IsLabel "Kept unparseable DDL unchanged:".toList := ⟨by decide, by decide, by decide⟩

theorem droppedLine_eq (s : Text) :
    droppedLine s = styled "red".toList "Dropped unparseable transform:".toList ++ ' ' :: s := by
  have hlabel : "[red]Dropped unparseable transform:[/red] ".toList =
      styled "red".toList "Dropped unparseable transform:".toList ++ [' '] := by decide
  exact (congrArg (· ++ s) hlabel).trans (List.append_assoc _ [' '] s)

theorem unparsedLine_eq (s : Text) :
    unparsedLine s = styled "yellow".toList "Kept unparseable DDL unchanged:".toList ++ ' ' :: s := by
  have hlabel : "[yellow]Kept unparseable DDL unchanged:[/yellow] ".toList =
      styled "yellow".toList "Kept unparseable DDL unchanged:".toList ++ [' '] := by decide
  exact (congrArg (· ++ s) hlabel).trans (List.append_assoc _ [' '] s)

end Labels

theorem together_eq_ok_iff {parts : List (Except Markup.Error (List Text))} {lines : List Text} :
    together parts = .ok lines ↔ ∃ groups : List (List Text), parts = groups.map .ok ∧ groups.flatten = lines := by
  have hmapM (groups : List (List Text)) : parts.mapM id = .ok groups ↔ parts = groups.map .ok := by
    rw [mapM_eq_ok_iff, List.map_id]
  simp only [together, map_eq_ok, hmapM]

section Reports

variable {r : Report}

theorem exists_tables_iff (hprintable : ∀ t ∈ r.mockedTables, Printable t) :
    (∃ lines, (tablesGrid r).lines screen = .ok lines) ↔ ∀ t ∈ r.mockedTables, Shows screen.evaluates t := by
  have hbrackets : (∀ c ∈ "Sink tables (".toList, isActive c = false) ∧ ∀ c ∈ ")".toList, isActive c = false := by
    decide
  have htitle : Shows screen.evaluates (tablesGrid r).title := shows_of_inactive <|
    List.forall_mem_append.2 ⟨List.forall_mem_append.2 ⟨hbrackets.1, isActive_ofNat _⟩, hbrackets.2⟩
  have htable : Shows screen.evaluates "Table".toList := shows_of_inactive (by decide)
  have hddl : Shows screen.evaluates "Mock DDL".toList := shows_of_inactive (by decide)
  rw [Grid.exists_lines_iff]
  constructor
  · rintro ⟨-, hcolumns⟩ t ht
    obtain ⟨-, hnames⟩ := hcolumns _ List.mem_cons_self
    exact (shows_iff_of_oneLine (isOneLine_of_printable (hprintable t ht))).2 (hnames t ht)
  · intro hnames
    refine ⟨htitle.drawn, List.forall_mem_cons.2 ⟨⟨htable.drawn, fun t ht => (hnames t ht).drawn⟩, ?_⟩⟩
    exact List.forall_mem_singleton.2 ⟨hddl.drawn, List.forall_mem_map.2 fun table _ => drawn_ddlMark r table⟩

theorem tables_shown (hprintable : ∀ t ∈ r.mockedTables, Printable t) (hfits : (tablesGrid r).FitsIn screen)
    {lines : List Text} (h : (tablesGrid r).lines screen = .ok lines) : ∃ front rows foot w₁ w₂,
      shown screen.width lines = front ++ rows ++ foot ∧
        List.Forall₂
          (fun name row => ShownAs (tableRow [padRight w₁ name, padRight w₂ (markText r name)]) row name)
          r.mockedTables rows := by
  obtain ⟨_, _, hcolumns, -⟩ := Grid.lines_eq_ok_iff.1 h
  obtain ⟨names, hnames, rfl⟩ := plain_tablesGrid.1 hcolumns
  obtain ⟨front, rule, foot, hshown⟩ := Grid.shown_of_fits hfits hcolumns (by simp)
    (tableColumns_plain hprintable hnames) h
  have hlength : names.length = r.mockedTables.length := by
    have := congrArg List.length hnames
    simpa using this.symm
  have hcount : (([nameColumn names, markColumn r].map (·.cells.length)).foldl max 0) = r.mockedTables.length := by
    simp only [List.map_cons, List.map_nil, nameColumn_cells, markColumn_cells, hlength, List.length_map,
      List.foldl_cons, List.foldl_nil, Nat.zero_max, Nat.max_self]
  rw [hcount, if_neg (by exact Bool.false_ne_true), bodyLines_nil] at hshown
  exact ⟨front, _, [foot], (nameColumn names).natural - 2, (markColumn r).natural - 2, hshown,
    forall₂_range fun i name hname => tableColumns_row hprintable hnames hname⟩

/-- The parts of a report. -/
theorem reportLines_eq_ok_iff (henabled : r.enabled = true) {lines : List Text} :
    reportLines screen r = .ok lines ↔ ∃ (panel : List Text) (tables dropped unparsed : List (List Text)),
      (countsPanel r).lines screen = .ok panel ∧
      (if r.mockedTables.isEmpty then [] else [(tablesGrid r).lines screen]) = tables.map .ok ∧
      (r.droppedStatements.map fun s => printed screen (droppedLine s)) = dropped.map .ok ∧
      (r.unparsedDdl.map fun s => printed screen (unparsedLine s)) = unparsed.map .ok ∧
      lines = shown screen.width (panel ++ tables.flatten ++ dropped.flatten ++ unparsed.flatten) := by
  rw [reportLines, if_pos henabled, map_eq_ok]
  simp only [together_eq_ok_iff]
  constructor
  · rintro ⟨_, ⟨groups, hparts, rfl⟩, rfl⟩
    obtain ⟨_, unparsed, rfl, hparts, hunparsed⟩ := List.append_eq_map_iff.1 hparts
    obtain ⟨_, dropped, rfl, hparts, hdropped⟩ := List.append_eq_map_iff.1 hparts.symm
    obtain ⟨_, tables, rfl, hparts, htables⟩ := List.append_eq_map_iff.1 hparts.symm
    obtain ⟨panel, rfl, hpanel⟩ := List.map_eq_singleton_iff.1 hparts
    exact ⟨panel, tables, dropped, unparsed, hpanel.symm, htables.symm, hdropped.symm, hunparsed.symm, by simp⟩
  · rintro ⟨panel, tables, dropped, unparsed, hpanel, htables, hdropped, hunparsed, rfl⟩
    refine ⟨_, ⟨[panel] ++ tables ++ dropped ++ unparsed, ?_, rfl⟩, by simp⟩
    rw [hpanel, htables, hdropped, hunparsed]
    simp

/-- A report is shown just if the tags match in all its texts, and can be looked up. -/
theorem exists_reportLines_iff (henabled : r.enabled = true) (hprintable : ∀ t ∈ reportTexts r, Printable t) :
    (∃ lines, reportLines screen r = .ok lines) ↔ ∀ t ∈ reportTexts r, Shows screen.evaluates t := by
  simp only [reportTexts, List.forall_mem_append] at hprintable
  obtain ⟨⟨hnames, hstatements⟩, hddl⟩ := hprintable
  have hempty : r.mockedTables.isEmpty = true → ∀ t ∈ r.mockedTables, Shows screen.evaluates t := by
    intro h
    rw [List.isEmpty_iff.1 h]
    simp
  have htables : (∃ tables : List (List Text),
      (if r.mockedTables.isEmpty then [] else [(tablesGrid r).lines screen]) = tables.map .ok) ↔
        ∀ t ∈ r.mockedTables, Shows screen.evaluates t := by
    split
    · exact iff_of_true ⟨[], rfl⟩ (hempty ‹_›)
    · have hgrid : (∃ lines, (tablesGrid r).lines screen = .ok lines) ↔ _ := exists_tables_iff hnames
      rw [← hgrid]
      constructor
      · rintro ⟨tables, h⟩
        obtain ⟨lines, -, hlines⟩ := List.map_eq_singleton_iff.1 h.symm
        exact ⟨lines, hlines.symm⟩
      · rintro ⟨lines, hlines⟩
        exact ⟨[lines], by rw [hlines]; rfl⟩
  have hdropped : (∃ parts : List (List Text),
      (r.droppedStatements.map fun s => printed screen (droppedLine s)) = parts.map .ok) ↔
        ∀ s ∈ r.droppedStatements, Shows screen.evaluates s := by
    simp only [exists_map_ok_iff, droppedLine_eq]
    exact forall₂_congr fun s hs => exists_printed_iff isStyle_red isLabel_dropped (hstatements s hs)
  have hunparsed : (∃ parts : List (List Text),
      (r.unparsedDdl.map fun s => printed screen (unparsedLine s)) = parts.map .ok) ↔
        ∀ s ∈ r.unparsedDdl, Shows screen.evaluates s := by
    simp only [exists_map_ok_iff, unparsedLine_eq]
    exact forall₂_congr fun s hs => exists_printed_iff isStyle_yellow isLabel_unparsed (hddl s hs)
  rw [reportTexts, List.forall_mem_append, List.forall_mem_append, ← htables, ← hdropped, ← hunparsed]
  simp only [reportLines_eq_ok_iff henabled]
  constructor
  · rintro ⟨_, _, tables, dropped, unparsed, -, htables, hdropped, hunparsed, -⟩
    exact ⟨⟨⟨tables, htables⟩, dropped, hdropped⟩, unparsed, hunparsed⟩
  · rintro ⟨⟨⟨tables, htables⟩, dropped, hdropped⟩, unparsed, hunparsed⟩
    obtain ⟨panel, hpanel⟩ := exists_countsPanel r
    exact ⟨_, panel, tables, dropped, unparsed, hpanel, htables, hdropped, hunparsed, rfl⟩

theorem reportLines_shown (henabled : r.enabled = true) (hprintable : ∀ t ∈ reportTexts r, Printable t)
    (hfits : ReportFits screen r) {lines : List Text} (h : reportLines screen r = .ok lines) :
    ReportShown r lines := by
  obtain ⟨panel, tables, dropped, unparsed, -, htables, hdropped, hunparsed, rfl⟩ :=
    (reportLines_eq_ok_iff henabled).1 h
  simp only [reportTexts, List.forall_mem_append] at hprintable
  obtain ⟨⟨hnames, hstatements⟩, hddl⟩ := hprintable
  obtain ⟨front, rows, foot, w₁, w₂, hrows, hall⟩ : ∃ front rows foot w₁ w₂,
      shown screen.width tables.flatten = front ++ rows ++ foot ∧
        List.Forall₂
          (fun name row => ShownAs (tableRow [padRight w₁ name, padRight w₂ (markText r name)]) row name)
          r.mockedTables rows := by
    split at htables
    · rename_i hempty
      rw [List.isEmpty_iff.1 hempty]
      cases tables with
      | nil => exact ⟨[], [], [], 0, 0, rfl, .nil⟩
      | cons => cases htables
    · obtain ⟨drawn, rfl, hdrawn⟩ := List.map_eq_singleton_iff.1 htables.symm
      rw [List.flatten_singleton]
      exact tables_shown hnames hfits.tables hdrawn.symm
  refine ⟨shown screen.width panel ++ front, rows, foot, shown screen.width dropped.flatten,
    shown screen.width unparsed.flatten, w₁, w₂, ?_, hall, ?_, ?_⟩
  · simp only [shown, List.map_append] at hrows ⊢
    rw [hrows]
    simp only [List.append_assoc]
  · have hroom := hfits.dropped
    simp only [droppedLine_eq] at hdropped hroom
    exact forall₂_labelled isStyle_red isLabel_dropped (by decide) hstatements hroom hdropped
  · have hroom := hfits.unparsed
    simp only [unparsedLine_eq] at hunparsed hroom
    exact forall₂_labelled isStyle_yellow isLabel_unparsed (by decide) hddl hroom hunparsed

end Reports

/-! ## Rows of statements -/

theorem printable_label (type : StatementType) : Printable type.label := by
  cases type <;> decide

theorem isActive_label (type : StatementType) : ∀ c ∈ type.label, isActive c = false := by
  cases type <;> decide

/-- The column of numbers. -/
def numberColumn (count : Nat) : Column :=
  { header := "#".toList, align := .right, cells := (List.range count).map fun i => Text.ofNat (i + 1) }

/-- The column of types. -/
def typeColumn (statements : List JobStatement) : Column :=
  { header := "Type".toList, cells := statements.map (·.type.label) }

/-- The column of statements, with the texts that are shown for them. -/
def valueColumn (values : List Text) : Column :=
  { header := "Statement".toList, overflow := .fold, cells := values }

theorem numberColumn_cells (count : Nat) :
    (numberColumn count).cells = (List.range count).map fun i => Text.ofNat (i + 1) := rfl

theorem typeColumn_cells (statements : List JobStatement) :
    (typeColumn statements).cells = statements.map (·.type.label) := rfl

theorem valueColumn_cells (values : List Text) : (valueColumn values).cells = values := rfl

theorem plain_statementsGrid {title : Text} {statements : List JobStatement} {columns : List Column} :
    (statementsGrid title statements).columns.mapM (Column.plain screen) = .ok columns ↔
      ∃ values, (statements.map (·.value)).map (Markup.plain screen.evaluates) = values.map .ok ∧
        columns = [numberColumn statements.length, typeColumn statements, valueColumn values] := by
  have hnumber : Markup.plain screen.evaluates "#".toList = .ok "#".toList := rfl
  have htype : Markup.plain screen.evaluates "Type".toList = .ok "Type".toList := rfl
  have hvalue : Markup.plain screen.evaluates "Statement".toList = .ok "Statement".toList := rfl
  have hnumbers : ((List.range statements.length).map fun i => Text.ofNat (i + 1)).map (Markup.plain screen.evaluates) =
      ((List.range statements.length).map fun i => Text.ofNat (i + 1)).map .ok :=
    map_plain_of_literal (List.forall_mem_map.2 fun i _ => printable_ofNat (i + 1))
      (List.forall_mem_map.2 fun i _ => literal_of_inactive (isActive_ofNat (i + 1)))
  have htypes : (statements.map (·.type.label)).map (Markup.plain screen.evaluates) =
      (statements.map (·.type.label)).map .ok :=
    map_plain_of_literal (List.forall_mem_map.2 fun s _ => printable_label s.type)
      (List.forall_mem_map.2 fun s _ => literal_of_inactive (isActive_label s.type))
  have hcolumns {values : List Text}
      (h : (statements.map (·.value)).map (Markup.plain screen.evaluates) = values.map .ok) :
      (statementsGrid title statements).columns.mapM (Column.plain screen) =
        .ok [numberColumn statements.length, typeColumn statements, valueColumn values] := by
    refine mapM_cons_eq_ok_iff.2 ⟨_, _, (Column.plain_eq_ok_iff hnumber).2 ⟨_, hnumbers, rfl⟩, ?_, rfl⟩
    refine mapM_cons_eq_ok_iff.2 ⟨_, _, (Column.plain_eq_ok_iff htype).2 ⟨_, htypes, rfl⟩, ?_, rfl⟩
    exact mapM_cons_eq_ok_iff.2 ⟨_, _, (Column.plain_eq_ok_iff hvalue).2 ⟨_, h, rfl⟩, rfl, rfl⟩
  constructor
  · intro h
    obtain ⟨_, _, -, hrest, -⟩ := mapM_cons_eq_ok_iff.1 h
    obtain ⟨_, _, -, hrest, -⟩ := mapM_cons_eq_ok_iff.1 hrest
    obtain ⟨_, _, hthird, -, -⟩ := mapM_cons_eq_ok_iff.1 hrest
    obtain ⟨values, hvalues, -⟩ := (Column.plain_eq_ok_iff hvalue).1 hthird
    exact ⟨values, hvalues, Except.ok.inj (h.symm.trans (hcolumns hvalues))⟩
  · rintro ⟨values, hvalues, rfl⟩
    exact hcolumns hvalues

section Statements

variable {statements : List JobStatement} (hprintable : ∀ s ∈ statements, Printable s.value) {values : List Text}
  (hvalues : (statements.map (·.value)).map (Markup.plain screen.evaluates) = values.map .ok)

include hprintable hvalues

theorem statementColumns_plain :
    ∀ c ∈ [numberColumn statements.length, typeColumn statements, valueColumn values], c.Plain := by
  refine List.forall_mem_cons.2 ⟨?_, List.forall_mem_cons.2 ⟨?_, List.forall_mem_singleton.2 ?_⟩⟩
  · exact .of_printable (by decide) (by decide)
      (List.forall_mem_map.2 fun i _ => (printable_ofNat (i + 1)).isPlaced)
  · exact .of_printable (by decide) (by decide)
      (List.forall_mem_map.2 fun s _ => (printable_label s.type).isPlaced)
  · exact .of_printable (by decide) (by decide) (isPlaced_of_map_ok hvalues (List.forall_mem_map.2 hprintable))

/-- The row of a statement. -/
theorem statementColumns_row {i : Nat} {s : JobStatement} (hs : statements[i]? = some s) :
    ShownAs
      (tableRow [padLeft ((numberColumn statements.length).natural - 2) (Text.ofNat (i + 1)),
        padRight ((typeColumn statements).natural - 2) s.type.label,
        padRight ((valueColumn values).natural - 2) s.value])
      (rowText '│' [numberColumn statements.length, typeColumn statements, valueColumn values]
        fun c => c.cells.getD i []) s.value := by
  have ht := hprintable s (List.mem_of_getElem? hs)
  have hvalue : (statements.map (·.value))[i]? = some s.value := by
    rw [List.getElem?_map, hs, Option.map_some]
  have hnumber : (numberColumn statements.length).cells.getD i [] = Text.ofNat (i + 1) :=
    getD_map (fun i => Text.ofNat (i + 1)) (List.getElem?_range (List.getElem?_eq_some_iff.1 hs).1)
  have htype : (typeColumn statements).cells.getD i [] = s.type.label :=
    getD_map (fun s : JobStatement => s.type.label) hs
  have hcells := cells_getD_le (statementColumns_plain hprintable hvalues) i
  have hnumberCells := hcells _ List.mem_cons_self
  have htypeCells := hcells _ (List.mem_cons_of_mem _ List.mem_cons_self)
  have hvalueCells := hcells _ (List.mem_cons_of_mem _ (List.mem_cons_of_mem _ List.mem_cons_self))
  rw [hnumber] at hnumberCells
  rw [htype] at htypeCells
  refine ShownAs.of_plain ht (getD_of_map_ok hvalues hvalue) ?_ (fun hsame => ?_) ?_
  · refine Nat.le_trans (active_rowText_le hcells) (Nat.le_of_eq ?_)
    simp only [List.map_cons, List.map_nil, sumOf_cons, hnumber, htype, active_eq_zero (isActive_ofNat _),
      active_eq_zero (isActive_label _), Nat.zero_add]
    rfl
  · have hsame : (valueColumn values).cells.getD i [] = s.value := hsame
    rw [hsame] at hvalueCells
    have hlast (d : Char) (hd : (Text.ofNat (i + 1)).getLast? = some d) : isBlank d = false :=
      (isDigit_facts (Json.isDigit_of_mem_ofNat (List.mem_of_getLast? hd))).2.2
    simp only [rowText, tableRow, List.flatMap_cons, List.flatMap_nil, hsame, hnumber, htype,
      Column.drawn_right (printable_ofNat _) hnumberCells rfl hlast,
      Column.drawn_left (printable_label _) htypeCells rfl, Column.drawn_left ht hvalueCells rfl]
    simp
  · exact (infix_padRight _ _).trans
      (infix_tableRow (List.mem_cons_of_mem _ (List.mem_cons_of_mem _ List.mem_cons_self)))

end Statements

/-- Each statement has its row, with its number and its type. -/
def StatementsShown (statements : List JobStatement) (lines : List Text) : Prop :=
  ∃ front rule rows foot w₁ w₂ w₃, lines = front ++ bodyLines [rule] (rows.map ([·])) ++ foot ∧
    List.Forall₂
      (fun s row => ShownAs (tableRow [padLeft w₁ (Text.ofNat s.2), padRight w₂ s.1.type.label, padRight w₃ s.1.value])
        row s.1.value)
      (statements.zipIdx 1) rows

section Statements

variable {title : Text} {statements : List JobStatement}

theorem statementLines_of_ne_nil (hne : statements ≠ []) {lines : List Text} :
    statementLines screen title statements = .ok lines ↔
      ∃ drawn, (statementsGrid title statements).lines screen = .ok drawn ∧ shown screen.width drawn = lines := by
  rw [statementLines, if_neg (by simpa using hne), map_eq_ok]

/-- Statements are shown just if each of them can be shown and the title, which is not for no statements, drawn. -/
theorem exists_statementLines_iff (hprintable : ∀ s ∈ statements, Printable s.value) :
    (∃ lines, statementLines screen title statements = .ok lines) ↔
      (statements ≠ [] → ∃ p, screen.drawn title = .ok p) ∧ ∀ s ∈ statements, Shows screen.evaluates s.value := by
  by_cases hne : statements = []
  · subst hne
    exact iff_of_true ⟨[], rfl⟩ ⟨fun h => absurd rfl h, by simp⟩
  · have hgrid : (∃ lines, statementLines screen title statements = .ok lines) ↔
        ∃ drawn, (statementsGrid title statements).lines screen = .ok drawn := by
      simp only [statementLines_of_ne_nil hne, exists_comm, exists_and_left, exists_eq', and_true]
    have hnumber : Shows screen.evaluates "#".toList := shows_of_inactive (by decide)
    have htype : Shows screen.evaluates "Type".toList := shows_of_inactive (by decide)
    have hvalue : Shows screen.evaluates "Statement".toList := shows_of_inactive (by decide)
    rw [hgrid, Grid.exists_lines_iff, forall_prop_of_true hne]
    refine and_congr_right fun _ => ⟨fun hcolumns s hs => ?_, fun hvalues => ?_⟩
    · obtain ⟨-, hcells⟩ := hcolumns _ (List.mem_cons_of_mem _ (List.mem_cons_of_mem _ List.mem_cons_self))
      exact (shows_iff_of_oneLine (isOneLine_of_printable (hprintable s hs))).2
        (hcells s.value (List.mem_map_of_mem hs))
    · refine List.forall_mem_cons.2 ⟨⟨hnumber.drawn, List.forall_mem_map.2 fun i _ => ?_⟩, ?_⟩
      · exact (shows_of_inactive (isActive_ofNat (i + 1))).drawn
      refine List.forall_mem_cons.2 ⟨⟨htype.drawn, List.forall_mem_map.2 fun s _ => ?_⟩, ?_⟩
      · exact (shows_of_inactive (isActive_label s.type)).drawn
      exact List.forall_mem_singleton.2 ⟨hvalue.drawn, List.forall_mem_map.2 fun s hs => (hvalues s hs).drawn⟩

theorem statementLines_shown (hprintable : ∀ s ∈ statements, Printable s.value)
    (hfits : (statementsGrid title statements).FitsIn screen) {lines : List Text}
    (h : statementLines screen title statements = .ok lines) : StatementsShown statements lines := by
  by_cases hne : statements = []
  · subst hne
    cases h
    exact ⟨[], [], [], [], 0, 0, 0, rfl, .nil⟩
  · obtain ⟨drawn, hdrawn, rfl⟩ := (statementLines_of_ne_nil hne).1 h
    obtain ⟨_, _, hcolumns, -⟩ := Grid.lines_eq_ok_iff.1 hdrawn
    obtain ⟨values, hvalues, rfl⟩ := plain_statementsGrid.1 hcolumns
    obtain ⟨front, rule, foot, hshown⟩ := Grid.shown_of_fits hfits hcolumns (by simp)
      (statementColumns_plain hprintable hvalues) hdrawn
    have hlength : values.length = statements.length := by
      have := congrArg List.length hvalues
      simpa using this.symm
    have hcount : (([numberColumn statements.length, typeColumn statements, valueColumn values].map
        (·.cells.length)).foldl max 0) = (statements.zipIdx 1).length := by
      simp only [List.map_cons, List.map_nil, numberColumn_cells, typeColumn_cells, valueColumn_cells, hlength,
        List.length_map, List.length_range, List.length_zipIdx, List.foldl_cons, List.foldl_nil, Nat.zero_max,
        Nat.max_self]
    rw [hcount] at hshown
    refine ⟨front, rule, _, [foot], (numberColumn statements.length).natural - 2, (typeColumn statements).natural - 2,
      (valueColumn values).natural - 2, hshown, forall₂_range fun i item hitem => ?_⟩
    obtain ⟨s, n⟩ := item
    obtain ⟨hs, rfl⟩ : statements[i]? = some s ∧ n = i + 1 := by
      rw [List.getElem?_zipIdx] at hitem
      obtain ⟨s', hs', he⟩ := Option.map_eq_some_iff.1 hitem
      cases he
      exact ⟨hs', Nat.add_comm 1 i⟩
    exact statementColumns_row hprintable hvalues hs

end Statements

/-! ## Both displays -/

/-- On a console with room, a report is shown just if the tags in all its texts match and can be looked up, and a list
of statements just if those in all statements do, under a title that can be shown. Then each name and each statement
stands in its row, and each other text after its label, as it is just if it is literal. -/
theorem displayed_verbatim_iff_literal (screen : Screen) {r : Report} (henabled : r.enabled = true)
    (hreport : ∀ t ∈ reportTexts r, Printable t) (hroom : ReportFits screen r) (title : Text)
    {statements : List JobStatement} (hstatements : ∀ s ∈ statements, Printable s.value)
    (hfits : (statementsGrid title statements).FitsIn screen) :
    (((∃ lines, reportLines screen r = .ok lines) ↔ ∀ t ∈ reportTexts r, Shows screen.evaluates t) ∧
      ∀ lines, reportLines screen r = .ok lines → ReportShown r lines) ∧
    (Shows screen.evaluates title → ((∃ lines, statementLines screen title statements = .ok lines) ↔
      ∀ s ∈ statements, Shows screen.evaluates s.value)) ∧
    ∀ lines, statementLines screen title statements = .ok lines →
      (statements ≠ [] → ShowsVisibly screen.evaluates title) ∧ (∀ s ∈ statements, Shows screen.evaluates s.value) ∧
        StatementsShown statements lines := by
  have hexists : (∃ lines, statementLines screen title statements = .ok lines) ↔ _ :=
    exists_statementLines_iff hstatements
  refine ⟨⟨exists_reportLines_iff henabled hreport, fun _ => reportLines_shown henabled hreport hroom⟩,
    fun htitle => ?_, fun lines hlines => ?_⟩
  · rw [hexists]
    exact ⟨fun h => h.2, fun h => ⟨fun _ => htitle.drawn, h⟩⟩
  · obtain ⟨htitle, hvalues⟩ := hexists.1 ⟨lines, hlines⟩
    refine ⟨fun hne => ?_, hvalues, statementLines_shown hstatements hfits hlines⟩
    obtain ⟨p, hdrawn⟩ := htitle hne
    exact showsVisibly_of_drawn hdrawn

/-- A screen with sixty cells on a line. -/
def narrowScreen : Screen := { width := 60 }

/-- A report whose texts have brackets and colons in them that are no markup. -/
def bracketReport : Report :=
  { mockedTables := ["t[1]".toList, "a:b".toList]
    tablesWithoutDdl := ["a:b".toList]
    insertsRedirected := 2
    ddlMocked := 1
    droppedStatements := ["SELECT m[1] FROM".toList]
    unparsedDdl := ["CREATE [] \\ :x".toList] }

/-- A statement with brackets that are no markup. -/
def bracketStatements : List JobStatement :=
  [⟨"INSERT INTO t SELECT m[1]".toList, .insert⟩, ⟨"CREATE TABLE t (a ARRAY[])".toList, .create⟩]

theorem literal_bracketReport : ∀ t ∈ reportTexts bracketReport, Printable t ∧ Literal t := by
  have hprintable : ∀ t ∈ reportTexts bracketReport, Printable t := by decide
  have hplain : ∀ t ∈ reportTexts bracketReport, (Markup.plain (fun _ => false) t).toOption = some t := by
    decide +kernel
  intro t ht
  exact ⟨hprintable t ht, (plain_eq_self_iff (hprintable t ht)).1 (eq_ok_of_toOption (hplain t ht))⟩

theorem literal_bracketStatements : ∀ s ∈ bracketStatements, Printable s.value ∧ Literal s.value := by
  have hprintable : ∀ s ∈ bracketStatements, Printable s.value := by decide
  have hplain : ∀ s ∈ bracketStatements, (Markup.plain (fun _ => false) s.value).toOption = some s.value := by
    decide +kernel
  intro s hs
  exact ⟨hprintable s hs, (plain_eq_self_iff (hprintable s hs)).1 (eq_ok_of_toOption (hplain s hs))⟩

theorem reportFits_bracketReport : ReportFits narrowScreen bracketReport := by
  have hliteral := literal_bracketReport
  simp only [reportTexts, List.forall_mem_append] at hliteral
  obtain ⟨⟨htables, hdropped⟩, hunparsed⟩ := hliteral
  have hdroppedLength : ∀ s ∈ bracketReport.droppedStatements,
      "Dropped unparseable transform:".toList.length + 1 + s.length ≤ 60 := by decide
  have hunparsedLength : ∀ s ∈ bracketReport.unparsedDdl,
      "Kept unparseable DDL unchanged:".toList.length + 1 + s.length ≤ 60 := by decide
  refine ⟨?_, fun s hs q hq => ?_, fun s hs q hq => ?_⟩
  · exact Grid.fitsIn_of_columns (plain_tablesGrid.2
      ⟨_, map_plain_of_literal (fun t ht => (htables t ht).1) fun t ht => (htables t ht).2, rfl⟩) (by decide +kernel)
  · rw [droppedLine_eq] at hq
    rw [cells_labelled isStyle_red isLabel_dropped (hdropped s hs).1 (hdropped s hs).2 hq]
    exact hdroppedLength s hs
  · rw [unparsedLine_eq] at hq
    rw [cells_labelled isStyle_yellow isLabel_unparsed (hunparsed s hs).1 (hunparsed s hs).2 hq]
    exact hunparsedLength s hs

theorem fitsIn_bracketStatements : (statementsGrid "DDL".toList bracketStatements).FitsIn narrowScreen := by
  have hliteral := literal_bracketStatements
  refine Grid.fitsIn_of_columns (plain_statementsGrid.2 ⟨_, map_plain_of_literal ?_ ?_, rfl⟩) (by decide +kernel)
  · exact List.forall_mem_map.2 fun s hs => (hliteral s hs).1
  · exact List.forall_mem_map.2 fun s hs => (hliteral s hs).2

/-- Brackets and colons that are no markup are shown as they are. -/
theorem displayed_verbatim_brackets :
    (bracketReport.enabled = true ∧ (∀ t ∈ reportTexts bracketReport, Printable t ∧ Literal t) ∧
      ReportFits narrowScreen bracketReport ∧
      ∃ lines, reportLines narrowScreen bracketReport = .ok lines ∧ ReportShown bracketReport lines) ∧
    (∀ s ∈ bracketStatements, Printable s.value ∧ Literal s.value) ∧
      (statementsGrid "DDL".toList bracketStatements).FitsIn narrowScreen ∧
      ∃ lines, statementLines narrowScreen "DDL".toList bracketStatements = .ok lines ∧
        StatementsShown bracketStatements lines := by
  have hreport := literal_bracketReport
  have hstatements := literal_bracketStatements
  have htitle : Shows narrowScreen.evaluates "DDL".toList := shows_of_inactive (by decide)
  obtain ⟨⟨hexists, hshown⟩, hexists', hshown'⟩ := displayed_verbatim_iff_literal narrowScreen (r := bracketReport) rfl
    (fun t ht => (hreport t ht).1) reportFits_bracketReport "DDL".toList (fun s hs => (hstatements s hs).1)
    fitsIn_bracketStatements
  obtain ⟨lines, hlines⟩ := hexists.2 fun t ht => (hreport t ht).2.untagged.shows
  obtain ⟨lines', hlines'⟩ := (hexists' htitle).2 fun s hs => (hstatements s hs).2.untagged.shows
  exact ⟨⟨rfl, hreport, reportFits_bracketReport, lines, hlines, hshown lines hlines⟩, hstatements,
    fitsIn_bracketStatements, lines', hlines', (hshown' lines' hlines').2.2⟩

/-- Statements that keep all of them from being shown: a closing tag without an open one, a share of a colour that is
no number, read by name or when it is drawn, and a handler whose parameters are no values. -/
def unshownStatements : List Text :=
  ["SELECT a[/b]".toList, "SELECT [rgb(,,)]".toList, "SELECT m[red=rgb(1,,2)]".toList, "SELECT [@a=(]x[/]".toList]

/-- A tag in a statement is lost, and some tags keep all statements from being shown. -/
theorem statementLines_tagged :
    (∃ lines, statementLines {} "DDL".toList [⟨"SELECT m[x]".toList, .insert⟩] = .ok lines ∧
      ∀ line ∈ lines, ¬"SELECT m[x]".toList <:+: line) ∧
    ∀ value ∈ unshownStatements, ∀ lines, statementLines {} "DDL".toList [⟨value, .insert⟩] ≠ .ok lines := by
  constructor
  · have hlines : (statementLines {} "DDL".toList [⟨"SELECT m[x]".toList, .insert⟩]).toOption.any
        (fun lines => lines.all fun line => !line.contains '[') = true := by decide +kernel
    obtain ⟨lines, hlines, hall⟩ := (Option.any_eq_true _ _).1 hlines
    refine ⟨lines, eq_ok_of_toOption hlines, fun line hline hinside => ?_⟩
    have hbracket := List.all_eq_true.1 hall line hline
    have hmem : '[' ∈ line := hinside.subset (by decide)
    simp [hmem] at hbracket
  · intro value hvalue lines h
    have hnone : ∀ value ∈ unshownStatements,
        (statementLines {} "DDL".toList [⟨value, .insert⟩]).toOption = none := by
      decide +kernel
    have hsome := hnone value hvalue
    rw [h] at hsome
    cases hsome

end DryRun.Console
