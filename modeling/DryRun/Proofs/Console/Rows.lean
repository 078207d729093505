import DryRun.Console.Report
import DryRun.Proofs.Console.Grid
import DryRun.Proofs.Console.Styled
import DryRun.Proofs.Json.Scalar
import Mathlib.Data.List.Forall2

/-!
# Texts in rows and after labels

A table that fits on the console is shown row by row (`Grid.shown_of_fits`). `ShownAs` says what becomes of a text
in its row; a text after a label is shown on one line (`printed_labelled`).
-/

namespace DryRun.Console

open Text Markup

/-! ## Tables with room -/

/-- The console has room for each text of the table, as it is shown, on one line. -/
def Grid.FitsIn (s : Screen) (g : Grid) : Prop :=
  ∀ columns : List Column, g.columns.mapM (Column.plain s) = .ok columns →
    sumOf (columns.map Column.natural) + columns.length + 1 ≤ s.width

/-- The texts as they are shown decide whether a table fits. -/
theorem Grid.fitsIn_of_columns {g : Grid} {s : Screen} {columns : List Column}
    (hcolumns : g.columns.mapM (Column.plain s) = .ok columns)
    (h : sumOf (columns.map Column.natural) + columns.length + 1 ≤ s.width) : g.FitsIn s := by
  intro columns' hcolumns'
  rw [hcolumns] at hcolumns'
  cases hcolumns'
  exact h

theorem bodyLines_cons_cons (rule row next : List Text) (rows : List (List Text)) :
    bodyLines rule (row :: next :: rows) = row ++ rule ++ bodyLines rule (next :: rows) := rfl

theorem map_bodyLines (f : Text → Text) (rule : List Text) (rows : List (List Text)) :
    (bodyLines rule rows).map f = bodyLines (rule.map f) (rows.map (List.map f)) := by
  induction rows with
  | nil => rfl
  | cons row rows ih =>
    cases rows with
    | nil => rfl
    | cons next rows =>
      rw [bodyLines_cons_cons, List.map_append, List.map_append, ih]
      rfl

/-- Without lines of the frame between them, rows of one line follow each other. -/
theorem bodyLines_nil (rows : List Text) : bodyLines [] (rows.map ([·])) = rows := by
  induction rows with
  | nil => rfl
  | cons row rows ih =>
    cases rows with
    | nil => rfl
    | cons next rows =>
      rw [List.map_cons, List.map_cons, bodyLines_cons_cons, ← List.map_cons (f := ([·])), ih]
      rfl

/-- The rows of a table that fits, and what stands around them. -/
theorem Grid.shown_of_fits {g : Grid} {s : Screen} (hfits : g.FitsIn s) {columns : List Column}
    (hcolumns : g.columns.mapM (Column.plain s) = .ok columns) (hne : columns ≠ []) (hplain : ∀ c ∈ columns, c.Plain)
    {lines : List Text} (h : g.lines s = .ok lines) : ∃ front rule foot,
      shown s.width lines = front ++
        bodyLines (if g.ruled then [rule] else [])
          (((List.range ((columns.map (·.cells.length)).foldl max 0)).map fun i =>
            rowText '│' columns fun c => c.cells.getD i []).map ([·])) ++
        [foot] := by
  have hroom := hfits columns hcolumns
  have hrows : (List.range ((columns.map (·.cells.length)).foldl max 0)).map
      (List.map (truncate .fold s.width) ∘ fun i => [rowText '│' columns fun c => c.cells.getD i []]) =
      ((List.range ((columns.map (·.cells.length)).foldl max 0)).map fun i =>
        rowText '│' columns fun c => c.cells.getD i []).map ([·]) := by
    rw [List.map_map]
    refine List.map_congr_left fun i _ => congrArg ([·]) ?_
    exact truncate_of_cells_le .fold (Nat.le_trans (cells_rowText_le (cells_getD_le hplain i)) hroom)
  have hrule (rule : Text) : (if g.ruled then [rule] else []).map (truncate .fold s.width) =
      if g.ruled then [truncate .fold s.width rule] else [] := by
    split <;> rfl
  obtain ⟨columns', title, hcolumns', -, -, rfl⟩ := Grid.lines_eq_ok_iff.1 h
  rw [hcolumns] at hcolumns'
  cases hcolumns'
  rw [columnWidths_of_fits hplain (by omega), Grid.framed_of_fits hplain g hne, shown, List.map_append,
    List.map_append, List.map_append, map_bodyLines, hrule, List.map_map, hrows, ← List.append_assoc,
    ← List.append_assoc]
  exact ⟨_, _, _, rfl⟩

/-! ## Texts in rows -/

/-- A text stands in its row as it is just if it is literal, and then the row is laid out like this. -/
structure ShownAs (layout row t : Text) : Prop where
  verbatim : t <:+: row ↔ Literal t
  layout : Literal t → row = layout

variable {evaluates : Text → Bool}

theorem ShownAs.of_plain {layout row t p : Text} (ht : Printable t) (hp : Markup.plain evaluates t = .ok p)
    (hactive : active row ≤ active p) (hlayout : p = t → row = layout) (hinside : t <:+: layout) :
    ShownAs layout row t := by
  obtain ⟨hliteral, hsame⟩ | ⟨hnot, hlost⟩ := plain_cases ht hp
  · have hrow := hlayout hsame
    exact ⟨iff_of_true (hrow ▸ hinside) hliteral, fun _ => hrow⟩
  · refine ⟨iff_of_false (fun hrow => ?_) hnot, fun h => absurd h hnot⟩
    have hle := active_le_of_sublist hrow.sublist
    omega

theorem infix_padRight (width : Nat) (t : Text) : t <:+: padRight width t := (List.prefix_append _ _).isInfix

theorem forall₂_range {α : Type} {R : α → Text → Prop} {items : List α} {row : Nat → Text}
    (h : ∀ i item, items[i]? = some item → R item (row i)) :
    List.Forall₂ R items ((List.range items.length).map row) := by
  refine List.forall₂_iff_get.2 ⟨by simp, fun i hi hrow => ?_⟩
  have hitem : items[i]? = some (items.get ⟨i, hi⟩) := List.getElem?_eq_getElem hi
  simpa using h i _ hitem

theorem getD_map {α : Type} (f : α → Text) {items : List α} {i : Nat} {item : α} (h : items[i]? = some item) :
    (items.map f).getD i [] = f item := by
  rw [List.getD_eq_getElem?_getD, List.getElem?_map, h, Option.map_some, Option.getD_some]

theorem map_plain_of_literal {ts : List Text} (hprintable : ∀ t ∈ ts, Printable t) (h : ∀ t ∈ ts, Literal t) :
    ts.map (Markup.plain evaluates) = ts.map .ok := List.map_congr_left fun t ht => (h t ht).plain (hprintable t ht)

theorem getD_of_map_ok {ts ps : List Text} (h : ts.map (Markup.plain evaluates) = ps.map .ok) {i : Nat} {t : Text}
    (ht : ts[i]? = some t) : Markup.plain evaluates t = .ok (ps.getD i []) := by
  have hi := congrArg (·[i]?) h
  simp only [List.getElem?_map, ht] at hi
  cases hp : ps[i]? with
  | none =>
    rw [hp] at hi
    cases hi
  | some p =>
    rw [hp] at hi
    rw [List.getD_eq_getElem?_getD, hp]
    exact Option.some.inj hi

theorem isPlaced_of_map_ok {ts ps : List Text} (h : ts.map (Markup.plain evaluates) = ps.map .ok)
    (ht : ∀ t ∈ ts, Printable t) :
    ∀ p ∈ ps, ∀ d ∈ p, isPlaced d = true := by
  intro p hp
  have hmem : Except.ok p ∈ ts.map (Markup.plain evaluates) := h ▸ List.mem_map.2 ⟨p, hp, rfl⟩
  obtain ⟨t, htmem, hplain⟩ := List.mem_map.1 hmem
  exact isPlaced_plain (ht t htmem) hplain

/-! ## Lines after a label -/

theorem printed_eq_ok_iff {s : Screen} {t : Text} {lines : List Text} : printed s t = .ok lines ↔
    ∃ p, s.drawn t = .ok p ∧ wrap .natural .fold s.width p = lines := map_eq_ok

section Labelled

variable {style label : Text} (hstyle : IsStyle style) (hlabel : IsLabel label) (hne : label ≠ [])
  {s : Screen}

include hstyle hlabel

theorem exists_printed_iff {t : Text} (ht : Printable t) :
    (∃ lines, printed s (styled style label ++ ' ' :: t) = .ok lines) ↔ Shows s.evaluates t := by
  have hline := isOneLine_of_printable (printable_labelled hstyle hlabel ht)
  rw [← shows_labelled hstyle hlabel, shows_iff_of_oneLine hline]
  simp only [printed_eq_ok_iff]
  constructor
  · rintro ⟨_, p, hp, -⟩
    exact ⟨p, hp⟩
  · rintro ⟨p, hp⟩
    exact ⟨_, p, hp, rfl⟩

/-- A literal text after its label takes as many cells as they have characters. -/
theorem cells_labelled {t : Text} (ht : Printable t) (hliteral : Literal t) {q : Text}
    (h : Markup.plain s.evaluates (styled style label ++ ' ' :: t) = .ok q) :
    Text.cells q = label.length + 1 + t.length := by
  obtain ⟨p, hp, rfl⟩ := (plain_labelled hstyle hlabel).1 h
  rw [hliteral.plain ht] at hp
  cases hp
  have hprintable : Printable (label ++ ' ' :: t) :=
    List.forall_mem_append.2 ⟨hlabel.printable, List.forall_mem_cons.2 ⟨by decide, ht⟩⟩
  rw [Text.cells, cellsFrom_of_printable hprintable, List.length_append, List.length_cons]
  omega

include hne

/-- A text stands after its label as it is just if it is literal. -/
theorem printed_labelled {t : Text} (ht : Printable t)
    (hroom : ∀ q, Markup.plain s.evaluates (styled style label ++ ' ' :: t) = .ok q → Text.cells q ≤ s.width)
    {lines : List Text} (h : printed s (styled style label ++ ' ' :: t) = .ok lines) :
    ∃ line, shown s.width lines = [line] ∧ (line = label ++ ' ' :: t ↔ Literal t) := by
  obtain ⟨q, hdrawn, rfl⟩ := printed_eq_ok_iff.1 h
  have hq := (drawn_eq_ok_iff.1 hdrawn).1
  have hcells := hroom q hq
  obtain ⟨p, hp, rfl⟩ := (plain_labelled hstyle hlabel).1 hq
  have hplaced : ∀ d ∈ label ++ ' ' :: p, isPlaced d = true :=
    List.forall_mem_append.2
      ⟨hlabel.printable.isPlaced, List.forall_mem_cons.2 ⟨by decide, isPlaced_plain ht hp⟩⟩
  have hpos : 0 < s.width := by
    have hle : Text.cells label ≤ Text.cells (label ++ ' ' :: p) := cells_mono (List.prefix_append _ _)
    rw [Text.cells, cellsFrom_of_printable hlabel.printable] at hle
    have := List.length_pos_iff.2 hne
    omega
  have htrim := trimEnd_isPrefix s.width (label ++ ' ' :: p)
  have hwidth := Nat.le_trans (cells_mono htrim) hcells
  have hlines : shown s.width (wrap .natural .fold s.width (label ++ ' ' :: p)) =
      [trimEnd s.width (label ++ ' ' :: p)] := by
    rw [wrap_of_cells_le .natural .fold hpos (fun d hd => ne_of_isPlaced (hplaced d hd)) hcells, shown,
      List.map_singleton, Console.align, truncate_of_cells_le .fold hwidth, truncate_of_cells_le .fold hwidth]
  refine ⟨_, hlines, ?_⟩
  obtain ⟨hliteral, rfl⟩ | ⟨hnot, hlost⟩ := plain_cases ht hp
  · have hprintable : Printable (label ++ ' ' :: p) :=
      List.forall_mem_append.2 ⟨hlabel.printable, List.forall_mem_cons.2 ⟨by decide, ht⟩⟩
    rw [Text.cells, cellsFrom_of_printable hprintable] at hcells
    exact iff_of_true (trimEnd_of_length_le hcells) hliteral
  · refine iff_of_false (fun hline => ?_) hnot
    have hactive := active_le_of_sublist htrim.sublist
    rw [hline] at hactive
    simp only [active_append, active_cons] at hactive
    omega

/-- Line by line, texts stand after their labels. -/
theorem forall₂_labelled {texts : List Text} (hprintable : ∀ t ∈ texts, Printable t)
    (hroom : ∀ t ∈ texts, ∀ q,
      Markup.plain s.evaluates (styled style label ++ ' ' :: t) = .ok q → Text.cells q ≤ s.width)
    {parts : List (List Text)}
    (h : (texts.map fun t => printed s (styled style label ++ ' ' :: t)) = parts.map .ok) :
    List.Forall₂ (fun t line => line = label ++ ' ' :: t ↔ Literal t) texts (shown s.width parts.flatten) := by
  induction texts generalizing parts with
  | nil =>
    cases parts with
    | nil => exact .nil
    | cons => cases h
  | cons t texts ih =>
    cases parts with
    | nil => cases h
    | cons part parts =>
      obtain ⟨hpart, hparts⟩ := List.cons.inj h
      obtain ⟨ht, htexts⟩ := List.forall_mem_cons.1 hprintable
      obtain ⟨hroom, hrooms⟩ := List.forall_mem_cons.1 hroom
      obtain ⟨line, hline, hverbatim⟩ := printed_labelled hstyle hlabel hne ht hroom hpart
      rw [List.flatten_cons, shown, List.map_append, ← shown, hline]
      exact .cons hverbatim (ih htexts hrooms hparts)

end Labelled

/-! ## Numbers -/

theorem isDigit_facts {c : Char} (h : isDigit c = true) :
    (32 ≤ c.toNat ∧ c.toNat < 127) ∧ isActive c = false ∧ isBlank c = false := by
  have hle : c ≤ '9' := by
    rw [isDigit, Bool.and_eq_true, decide_eq_true_eq, decide_eq_true_eq] at h
    exact h.2
  have hascii : c.toNat < 128 := Nat.lt_of_le_of_lt hle (by decide)
  exact of_ascii (P := fun c => isDigit c = true →
    (32 ≤ c.toNat ∧ c.toNat < 127) ∧ isActive c = false ∧ isBlank c = false) (by decide +kernel) hascii h

theorem printable_ofNat (n : Nat) : Printable (Text.ofNat n) := fun _ hc =>
  (isDigit_facts (Json.isDigit_of_mem_ofNat hc)).1

theorem isActive_ofNat (n : Nat) : ∀ c ∈ Text.ofNat n, isActive c = false := fun _ hc =>
  (isDigit_facts (Json.isDigit_of_mem_ofNat hc)).2.1

theorem isActive_ofInt (n : Int) : ∀ c ∈ Text.ofInt n, isActive c = false := by
  cases n with
  | ofNat n => exact isActive_ofNat n
  | negSucc n => exact List.forall_mem_cons.2 ⟨by decide, isActive_ofNat _⟩

end DryRun.Console
