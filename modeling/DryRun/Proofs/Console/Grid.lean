import DryRun.Console.Grid
import DryRun.Proofs.Console.Lines
import DryRun.Proofs.Console.Literal

/-!
# Tables that fit on the console

If the console has room for the widest text of each column, nothing in a table is wrapped or cut: each row takes
one line, and in it each text stands between spaces in its column (`Grid.framed_of_fits`).
-/

namespace DryRun.Console

open Text Markup

/-! ## Columns without markup -/

theorem bind_eq_ok_iff {α β ε : Type} {x : Except ε α} {f : α → Except ε β} {b : β} :
    (x >>= f) = .ok b ↔ ∃ a, x = .ok a ∧ f a = .ok b := by
  constructor
  · intro h
    cases x with
    | error e => cases h
    | ok a => exact ⟨a, rfl, h⟩
  · rintro ⟨a, rfl, h⟩
    exact h

/-- Either every member has a result, or there are no results. -/
theorem mapM_eq_ok_iff {α β ε : Type} {f : α → Except ε β} {items : List α} {results : List β} :
    items.mapM f = .ok results ↔ items.map f = results.map .ok := by
  induction items generalizing results with
  | nil => cases results <;> simp [pure, Except.pure]
  | cons a items ih =>
    simp only [List.mapM_cons, bind_eq_ok_iff, ih, List.map_cons]
    cases results with
    | nil => simp [pure, Except.pure]
    | cons b results => simp [pure, Except.pure]

theorem exists_map_ok_iff {α β ε : Type} {f : α → Except ε β} {items : List α} :
    (∃ results : List β, items.map f = results.map .ok) ↔ ∀ a ∈ items, ∃ b, f a = .ok b := by
  induction items with
  | nil => exact iff_of_true ⟨[], rfl⟩ (by simp)
  | cons a items ih =>
    rw [List.forall_mem_cons, ← ih]
    constructor
    · rintro ⟨results, h⟩
      cases results with
      | nil => cases h
      | cons b results =>
        obtain ⟨ha, hitems⟩ := List.cons.inj h
        exact ⟨⟨b, ha⟩, results, hitems⟩
    · rintro ⟨⟨b, hb⟩, results, hitems⟩
      exact ⟨b :: results, by rw [List.map_cons, List.map_cons, hb, hitems]⟩

theorem mapM_cons_eq_ok_iff {α β ε : Type} {f : α → Except ε β} {a : α} {items : List α} {results : List β} :
    (a :: items).mapM f = .ok results ↔ ∃ b rest, f a = .ok b ∧ items.mapM f = .ok rest ∧ results = b :: rest := by
  simp only [List.mapM_cons, bind_eq_ok_iff, pure, Except.pure, Except.ok.injEq]
  constructor
  · rintro ⟨b, hb, rest, hrest, rfl⟩
    exact ⟨b, rest, hb, hrest, rfl⟩
  · rintro ⟨b, rest, hb, hrest, rfl⟩
    exact ⟨b, hb, rest, hrest, rfl⟩

/-- A header without markup stays as it is. -/
theorem Column.plain_eq_ok_iff {s : Screen} {header : Text} (h : Markup.plain s.evaluates header = .ok header)
    {a : Align} {overflow : Overflow} {cells : List Text} {column : Column} :
    Column.plain s ⟨header, a, overflow, cells⟩ = .ok column ↔
      ∃ shown, cells.map (Markup.plain s.evaluates) = shown.map .ok ∧ column = ⟨header, a, overflow, shown⟩ := by
  simp only [← mapM_eq_ok_iff]
  rw [Column.plain, h]
  dsimp only
  cases cells.mapM (Markup.plain s.evaluates) with
  | error e => simp
  | ok shown => simp [eq_comm]

/-! ## Widths -/

theorem foldl_max_le_iff {widths : List Nat} {a n : Nat} :
    widths.foldl max a ≤ n ↔ a ≤ n ∧ ∀ w ∈ widths, w ≤ n := by
  induction widths generalizing a with
  | nil => simp
  | cons w widths ih => rw [List.foldl_cons, ih, Nat.max_le, List.forall_mem_cons, and_assoc]

theorem le_foldl_max {widths : List Nat} {w : Nat} (h : w ∈ widths) (a : Nat) : w ≤ widths.foldl max a :=
  (foldl_max_le_iff.1 (Nat.le_refl _)).2 w h

theorem sumOf_cons (w : Nat) (widths : List Nat) : sumOf (w :: widths) = w + sumOf widths := by
  have hstart (widths : List Nat) (a : Nat) : widths.foldl Nat.add a = a + widths.foldl Nat.add 0 := by
    induction widths generalizing a with
    | nil => rfl
    | cons v widths ih =>
      rw [List.foldl_cons, List.foldl_cons, ih, ih (Nat.add 0 v)]
      simp [Nat.add_assoc]
  rw [sumOf, List.foldl_cons, hstart]
  simp [sumOf]

theorem le_sumOf {widths : List Nat} {w : Nat} (h : w ∈ widths) : w ≤ sumOf widths := by
  induction widths with
  | nil => cases h
  | cons v widths ih =>
    rw [sumOf_cons]
    rcases List.mem_cons.1 h with rfl | h
    · exact Nat.le_add_right _ _
    · exact Nat.le_trans (ih h) (Nat.le_add_left _ _)

/-- The width of a column that shows each of its texts on one line, with a space on each side. -/
def Column.natural (c : Column) : Nat := (c.all.map (Text.cells · + 2)).foldl max 0

/-- Each text of the column is on one line, and its header is not empty. -/
structure Column.Plain (c : Column) : Prop where
  header_pos : 0 < Text.cells c.header
  placed : ∀ t ∈ c.all, ∀ d ∈ t, isPlaced d = true

theorem isLineBreak_of_isPlaced {c : Char} (h : isPlaced c = true) : isLineBreak c = false := by
  cases hbreak : isLineBreak c with
  | false => rfl
  | true =>
    rw [isPlaced, Bool.or_eq_true, beq_iff_eq, Bool.and_eq_true, decide_eq_true_eq] at h
    rcases h with rfl | ⟨hlow, hblank⟩
    · exact absurd hbreak (by decide)
    · have hcode : c.toNat = 0x85 ∨ c.toNat = 0x2028 ∨ c.toNat = 0x2029 := by
        simp [isLineBreak] at hbreak
        omega
      have hisBlank : isBlank c = true := by
        rw [isBlank, if_neg (by omega)]
        simp [inRanges, blankRanges]
        omega
      rw [hisBlank] at hblank
      cases hblank

theorem ne_of_isPlaced {c : Char} (h : isPlaced c = true) : c ≠ '\n' ∧ c ≠ '\t' := by
  constructor <;> (rintro rfl; exact absurd h (by decide))

theorem Column.cells_le_natural {c : Column} {t : Text} (h : t ∈ c.all) : Text.cells t + 2 ≤ c.natural := by
  have hmem : Text.cells t + 2 ∈ c.all.map (Text.cells · + 2) := List.mem_map.2 ⟨t, h, rfl⟩
  exact le_foldl_max hmem 0

theorem Column.Plain.of_printable {header : Text} (hne : header ≠ []) (h : Printable header) {a : Align}
    {overflow : Overflow} {cells : List Text} (hcells : ∀ t ∈ cells, ∀ d ∈ t, isPlaced d = true) :
    Column.Plain ⟨header, a, overflow, cells⟩ where
  header_pos := by
    rw [Text.cells, cellsFrom_of_printable h]
    exact List.length_pos_iff.2 hne
  placed := List.forall_mem_cons.2 ⟨h.isPlaced, hcells⟩

theorem Column.Plain.natural_pos {c : Column} (h : c.Plain) : 2 < c.natural := by
  have hheader : Text.cells c.header + 2 ≤ c.natural := Column.cells_le_natural List.mem_cons_self
  have hpos := h.header_pos
  omega

theorem paddedMeasure_of_le {room : Nat} {t : Text} (h : measure t + 2 ≤ room) :
    paddedMeasure room t = measure t + 2 := by
  rw [paddedMeasure]
  split <;> omega

theorem Column.Plain.measure_eq {c : Column} (h : c.Plain) {room : Nat} (hroom : c.natural ≤ room) :
    c.measure room = c.natural := by
  have hpadded : c.all.map (paddedMeasure room) = c.all.map (Text.cells · + 2) := by
    refine List.map_congr_left fun t ht => ?_
    have hcells := measure_eq_cells fun d hd => isLineBreak_of_isPlaced (h.placed t ht d hd)
    have hle := Column.cells_le_natural ht
    rw [paddedMeasure_of_le (by omega), hcells]
  rw [Column.measure, hpadded, Column.natural]

/-- Columns that have room are as wide as they ask for. -/
theorem columnWidths_of_fits {room : Nat} {columns : List Column} (hplain : ∀ c ∈ columns, c.Plain)
    (h : sumOf (columns.map Column.natural) ≤ room) : columnWidths room columns = columns.map Column.natural := by
  have hasked : (columns.map fun c => max 1 (c.measure room)) = columns.map Column.natural := by
    refine List.map_congr_left fun c hc => ?_
    have hle := Nat.le_trans (le_sumOf (List.mem_map.2 ⟨c, hc, rfl⟩)) h
    have hpos := (hplain c hc).natural_pos
    rw [(hplain c hc).measure_eq hle]
    omega
  rw [columnWidths, hasked]
  exact if_pos h

/-! ## Rows -/

/-- A text in its column, with a space on each side. -/
def Column.drawn (c : Column) (t : Text) : Text :=
  ' ' :: (fit (c.natural - 2) (Console.align c.align c.overflow (c.natural - 2) (trimEnd (c.natural - 2) t)) ++ [' '])

/-- The line of a row between bars. -/
def rowText (bar : Char) (columns : List Column) (pick : Column → Text) : Text :=
  bar :: columns.flatMap fun c => c.drawn (pick c) ++ [bar]

/-- A text that fits in its column takes one line. -/
theorem Column.Plain.cellLines_eq {c : Column} (h : c.Plain) {t : Text} (hplaced : ∀ d ∈ t, isPlaced d = true)
    (hcells : Text.cells t + 2 ≤ c.natural) : cellLines c c.natural t = [c.drawn t] := by
  have hpos := h.natural_pos
  rw [cellLines, wrap_of_cells_le c.align c.overflow (by omega) (fun d hd => ne_of_isPlaced (hplaced d hd))
    (by omega)]
  rfl

theorem foldl_max_one {α : Type} (l : List α) {f : α → Nat} (h : ∀ a ∈ l, f a = 1) : (l.map f).foldl max 1 = 1 := by
  refine Nat.le_antisymm (foldl_max_le_iff.2 ⟨Nat.le_refl _, ?_⟩) (foldl_max_le_iff.1 (Nat.le_refl _)).1
  exact List.forall_mem_map.2 fun a ha => Nat.le_of_eq (h a ha)

theorem join_bar {bar : Char} {parts : List Text} (h : parts ≠ []) :
    join [bar] parts ++ [bar] = parts.flatMap (· ++ [bar]) := by
  induction parts with
  | nil => exact absurd rfl h
  | cons part parts ih =>
    cases parts with
    | nil => simp [join]
    | cons next parts =>
      rw [join, List.flatMap_cons, ← ih (by simp)]
      · simp
      · simp

theorem rowLines_of_fits (blanksAbove : Bool) (bar : Char) {columns : List Column} (hne : columns ≠ [])
    (hplain : ∀ c ∈ columns, c.Plain) {pick : Column → Text}
    (hplaced : ∀ c ∈ columns, ∀ d ∈ pick c, isPlaced d = true)
    (hcells : ∀ c ∈ columns, Text.cells (pick c) + 2 ≤ c.natural) :
    rowLines blanksAbove bar columns (columns.map Column.natural) (columns.map pick) =
      [rowText bar columns pick] := by
  have hzip {β : Type} (f : Column → β) : columns.zip (columns.map f) = columns.map fun c => (c, f c) := by
    have hid : (columns.map id).zip (columns.map f) = columns.map fun c => (id c, f c) := List.zip_map'
    rwa [List.map_id] at hid
  have hdrawn (f : Column × Nat × Text → List Text) (hf : ∀ c width t, f (c, width, t) = cellLines c width t) :
      (columns.zip ((columns.map Column.natural).zip (columns.map pick))).map f =
        columns.map fun c => [c.drawn (pick c)] := by
    rw [List.zip_map', hzip, List.map_map]
    refine List.map_congr_left fun c hc => ?_
    rw [Function.comp_apply, hf, (hplain c hc).cellLines_eq (hplaced c hc) (hcells c hc)]
  have hheight : ((columns.map fun c => [c.drawn (pick c)]).map List.length).foldl max 1 = 1 := by
    rw [List.map_map]
    exact foldl_max_one columns fun _ _ => rfl
  have haligned : alignRows blanksAbove (columns.map Column.natural) (columns.map fun c => [c.drawn (pick c)]) =
      columns.map fun c => [c.drawn (pick c)] := by
    rw [alignRows, hheight, List.zip_map', List.map_map]
    refine List.map_congr_left fun c _ => ?_
    simp
  rw [rowLines]
  dsimp only
  rw [hdrawn _ fun _ _ _ => rfl, haligned, hheight, acrossRow]
  simp [rowText, join_bar, hne, List.flatMap_map]

/-! ## Cells of a row -/

theorem cellsFrom_bar (last : Option Char) (t : Text) : cellsFrom last ('│' :: t) = 1 + Text.cells t := by
  have hcells : cellsAfter last '│' = 1 := by
    rw [cellsAfter, if_neg (by decide)]
    decide +kernel
  have hlast : lastAfter last '│' = some '│' := by
    rw [lastAfter, if_neg (by decide), if_neg (by decide +kernel)]
  rw [cellsFrom_cons (by decide), hcells, hlast]
  exact congrArg _ (cellsFrom_congr (by decide +kernel) t)

/-- A text with spaces after it, in front of a bar. -/
theorem cellsFrom_padded_le (t : Text) (n : Nat) (last : Option Char) (rest : Text) :
    cellsFrom last (t ++ (spaces (n + 1) ++ '│' :: rest)) ≤ cellsFrom last t + (n + 1 + (1 + Text.cells rest)) := by
  have hspaces (k : Nat) (last : Option Char) :
      cellsFrom last (spaces k ++ '│' :: rest) = k + (1 + Text.cells rest) := by
    induction k generalizing last with
    | zero => rw [spaces, List.replicate_zero, List.nil_append, cellsFrom_bar, Nat.zero_add]
    | succ k ih =>
      rw [spaces, List.replicate_succ, List.cons_append, cellsFrom_printable (by decide) (by decide)]
      refine (congrArg (1 + ·) (ih _)).trans ?_
      omega
  refine cellsFrom_append_le (fun last => Nat.le_of_eq (hspaces _ last)) (fun last => ?_) last t
  exact Nat.le_trans (Nat.le_of_eq (hspaces n last)) (by omega)

section Drawn

variable {c : Column} {t : Text} (h : Text.cells t + 2 ≤ c.natural)

include h

/-- A text that fits in its column is drawn whole, but for blanks at its end, and with spaces around it. -/
theorem Column.drawn_eq : ∃ z k, c.drawn t = ' ' :: (z ++ spaces (k + 1)) ∧ Text.cells z + k + 2 = c.natural ∧
    ∃ m n l, l <+: t ∧ z = spaces m ++ l ++ spaces n := by
  have htrim := trimEnd_isPrefix (c.natural - 2) t
  have hcells : Text.cells (trimEnd (c.natural - 2) t) ≤ c.natural - 2 := by
    have hle := cells_mono htrim
    omega
  obtain ⟨hz, m, n, l, hl, heq⟩ := align_of_cells_le c.align c.overflow hcells
  rw [Column.drawn]
  generalize Console.align c.align c.overflow (c.natural - 2) (trimEnd (c.natural - 2) t) = z at hz heq
  refine ⟨z, c.natural - 2 - Text.cells z, ?_, by omega, m, n, l, hl.trans htrim, heq⟩
  rw [fit_of_cells_le hz, List.append_assoc, spaces, spaces, List.replicate_succ']

theorem Column.cells_drawn_le (last : Option Char) (rest : Text) :
    cellsFrom last (c.drawn t ++ '│' :: rest) ≤ c.natural + (1 + Text.cells rest) := by
  obtain ⟨z, k, hdrawn, hcells, -⟩ := Column.drawn_eq h
  have hspace : cellsFrom (some ' ') z = Text.cells z := cellsFrom_congr (by decide +kernel) z
  have hpadded := cellsFrom_padded_le z k (some ' ') rest
  rw [hdrawn, List.cons_append, cellsFrom_printable (by decide) (by decide), List.append_assoc]
  omega

theorem Column.active_drawn_le : active (c.drawn t) ≤ active t := by
  obtain ⟨z, k, hdrawn, -, m, n, l, hl, rfl⟩ := Column.drawn_eq h
  have hspaces (n : Nat) : active (spaces n) = 0 :=
    active_eq_zero fun d hd => by rw [List.eq_of_mem_replicate hd]; rfl
  rw [hdrawn, active_cons, if_neg (by decide)]
  simp only [active_append, hspaces]
  exact Nat.le_trans (Nat.le_of_eq (by omega)) (active_le_of_sublist hl.sublist)

end Drawn

/-- A row is no wider than its columns and the bars between them. -/
theorem cells_rowText_le {columns : List Column} {pick : Column → Text}
    (h : ∀ c ∈ columns, Text.cells (pick c) + 2 ≤ c.natural) :
    Text.cells (rowText '│' columns pick) ≤ sumOf (columns.map Column.natural) + columns.length + 1 := by
  have hcolumns : Text.cells (columns.flatMap fun c => c.drawn (pick c) ++ ['│']) ≤
      sumOf (columns.map Column.natural) + columns.length := by
    induction columns with
    | nil => exact Nat.le_refl 0
    | cons c columns ih =>
      obtain ⟨hc, hrest⟩ := List.forall_mem_cons.1 h
      have hdrawn := Column.cells_drawn_le hc none (columns.flatMap fun c => c.drawn (pick c) ++ ['│'])
      have hwidths := ih hrest
      rw [List.flatMap_cons, List.append_assoc, List.map_cons, sumOf_cons, List.length_cons]
      exact Nat.le_trans hdrawn (by omega)
  rw [rowText, Text.cells, cellsFrom_bar]
  omega

/-- Nothing but the texts of a row begins markup. -/
theorem active_rowText_le {columns : List Column} {pick : Column → Text}
    (h : ∀ c ∈ columns, Text.cells (pick c) + 2 ≤ c.natural) :
    active (rowText '│' columns pick) ≤ sumOf (columns.map fun c => active (pick c)) := by
  have hcolumns : active (columns.flatMap fun c => c.drawn (pick c) ++ ['│']) ≤
      sumOf (columns.map fun c => active (pick c)) := by
    induction columns with
    | nil => exact Nat.le_refl 0
    | cons c columns ih =>
      obtain ⟨hc, hrest⟩ := List.forall_mem_cons.1 h
      have hbar : active ['│'] = 0 := rfl
      rw [List.flatMap_cons, active_append, active_append, hbar, List.map_cons, sumOf_cons]
      exact Nat.add_le_add (Column.active_drawn_le hc) (ih hrest)
  rw [rowText, active_cons, if_neg (by decide)]
  exact hcolumns

/-! ## Texts in their columns -/

/-- A row of texts, each between spaces. -/
def tableRow (texts : List Text) : Text := '│' :: texts.flatMap fun t => ' ' :: (t ++ [' ', '│'])

theorem infix_tableRow {texts : List Text} {t : Text} (h : t ∈ texts) : t <:+: tableRow texts := by
  obtain ⟨a, b, rfl⟩ := List.append_of_mem h
  refine ⟨'│' :: (a.flatMap (fun t => ' ' :: (t ++ [' ', '│'])) ++ [' ']),
    [' ', '│'] ++ b.flatMap (fun t => ' ' :: (t ++ [' ', '│'])), ?_⟩
  simp [tableRow]

/-- The text with spaces after it up to `width` characters. -/
def padRight (width : Nat) (t : Text) : Text := t ++ spaces (width - t.length)

/-- The text with spaces before it up to `width` characters. -/
def padLeft (width : Nat) (t : Text) : Text := spaces (width - t.length) ++ t

section Printable

variable {c : Column} {t : Text} (ht : Printable t) (h : Text.cells t + 2 ≤ c.natural)

include ht h

theorem Column.drawn_left (hleft : c.align = .left) :
    c.drawn t = ' ' :: (padRight (c.natural - 2) t ++ [' ']) := by
  have hcells : Text.cells t = t.length := cellsFrom_of_printable ht none
  have hpadded : Text.cells (padRight (c.natural - 2) t) = c.natural - 2 := by
    rw [padRight, Text.cells, cellsFrom_of_printable, List.length_append, spaces, List.length_replicate]
    · omega
    · intro d hd
      rcases List.mem_append.1 hd with hd | hd
      · exact ht d hd
      · rw [List.eq_of_mem_replicate hd]
        decide
  have halign : Console.align .left c.overflow (c.natural - 2) t = padRight (c.natural - 2) t := by
    rw [Console.align, truncate_of_cells_le _ (by omega), hcells]
    rfl
  rw [Column.drawn, trimEnd_of_length_le (by omega), hleft, halign, fit_of_cells_le (by omega), hpadded,
    Nat.sub_self, spaces, List.replicate_zero, List.append_nil]

theorem Column.drawn_right (hright : c.align = .right) (hlast : ∀ d, t.getLast? = some d → isBlank d = false) :
    c.drawn t = ' ' :: (padLeft (c.natural - 2) t ++ [' ']) := by
  have hcells : Text.cells t = t.length := cellsFrom_of_printable ht none
  have hpadded : Text.cells (padLeft (c.natural - 2) t) = c.natural - 2 := by
    rw [padLeft, cells_spaces_append]
    omega
  have halign : Console.align .right c.overflow (c.natural - 2) t = padLeft (c.natural - 2) t := by
    rw [Console.align, stripRight_of_last hlast, truncate_of_cells_le _ (by omega), hcells]
    rfl
  rw [Column.drawn, trimEnd_of_length_le (by omega), hright, halign, fit_of_cells_le (by omega), hpadded,
    Nat.sub_self, spaces, List.replicate_zero, List.append_nil]

end Printable

/-! ## Whole tables -/

section Framed

variable {columns : List Column} (hplain : ∀ c ∈ columns, c.Plain)

include hplain

theorem cells_getD_le (i : Nat) : ∀ c ∈ columns, Text.cells (c.cells.getD i []) + 2 ≤ c.natural := by
  intro c hc
  rw [List.getD_eq_getElem?_getD]
  cases hcell : c.cells[i]? with
  | none => exact Nat.le_of_lt (hplain c hc).natural_pos
  | some t => exact Column.cells_le_natural (List.mem_cons_of_mem _ (List.mem_of_getElem? hcell))

theorem isPlaced_getD (i : Nat) : ∀ c ∈ columns, ∀ d ∈ c.cells.getD i [], isPlaced d = true := by
  intro c hc d hd
  rw [List.getD_eq_getElem?_getD] at hd
  cases hcell : c.cells[i]? with
  | none =>
    rw [hcell] at hd
    cases hd
  | some t =>
    rw [hcell] at hd
    exact (hplain c hc).placed t (List.mem_cons_of_mem _ (List.mem_of_getElem? hcell)) d hd

/-- Each row of a table that fits takes one line. -/
theorem Grid.framed_of_fits (g : Grid) (hne : columns ≠ []) :
    g.framed columns (columns.map Column.natural) =
      [frameLine '┏' '━' '┳' '┓' (columns.map Column.natural), rowText '┃' columns (·.header),
        frameLine '┡' '━' '╇' '┩' (columns.map Column.natural)] ++
      bodyLines (if g.ruled then [frameLine '├' '─' '┼' '┤' (columns.map Column.natural)] else [])
        ((List.range ((columns.map (·.cells.length)).foldl max 0)).map fun i =>
          [rowText '│' columns fun c => c.cells.getD i []]) ++
      [frameLine '└' '─' '┴' '┘' (columns.map Column.natural)] := by
  have hheader : rowLines true '┃' columns (columns.map Column.natural) (columns.map (·.header)) =
      [rowText '┃' columns (·.header)] :=
    rowLines_of_fits true '┃' hne hplain (fun c hc => (hplain c hc).placed c.header List.mem_cons_self)
      fun c _ => Column.cells_le_natural List.mem_cons_self
  have hrow (i : Nat) : rowLines false '│' columns (columns.map Column.natural)
      (columns.map fun c => c.cells.getD i []) = [rowText '│' columns fun c => c.cells.getD i []] :=
    rowLines_of_fits false '│' hne hplain (isPlaced_getD hplain i) (cells_getD_le hplain i)
  rw [Grid.framed, rowsOf, List.map_map, hheader]
  simp only [Function.comp_def, hrow]
  rfl

end Framed

/-! ## Drawing -/

/-- The cells of the rows of columns are the cells of the columns, and blank ones where a column is shorter. -/
theorem forall_mem_rows {P : Text → Prop} (hblank : P []) {columns : List Column} {count : Nat}
    (hcount : ∀ c ∈ columns, c.cells.length ≤ count) :
    (∀ t ∈ (rowsOf count columns).flatten, P t) ↔ ∀ c ∈ columns, ∀ t ∈ c.cells, P t := by
  constructor
  · intro h c hc t ht
    obtain ⟨i, hi, rfl⟩ := List.getElem_of_mem ht
    have hrow : columns.map (fun c => c.cells.getD i []) ∈ rowsOf count columns :=
      List.mem_map.2 ⟨i, List.mem_range.2 (Nat.lt_of_lt_of_le hi (hcount c hc)), rfl⟩
    have hcell : c.cells.getD i [] ∈ columns.map fun c => c.cells.getD i [] := List.mem_map.2 ⟨c, hc, rfl⟩
    rw [List.getD_eq_getElem?_getD, List.getElem?_eq_getElem hi, Option.getD_some] at hcell
    exact h _ (List.mem_flatten.2 ⟨_, hrow, hcell⟩)
  · intro h t ht
    obtain ⟨row, hrow, hcell⟩ := List.mem_flatten.1 ht
    obtain ⟨i, -, rfl⟩ := List.mem_map.1 hrow
    obtain ⟨c, hc, rfl⟩ := List.mem_map.1 hcell
    rw [List.getD_eq_getElem?_getD]
    cases hget : c.cells[i]? with
    | none => exact hblank
    | some t => exact h c hc t (List.mem_of_getElem? hget)

theorem Grid.forall_mem_texts {P : Text → Prop} (hblank : P []) {g : Grid} :
    (∀ t ∈ g.texts, P t) ↔ P g.title ∧ ∀ c ∈ g.columns, P c.header ∧ ∀ t ∈ c.cells, P t := by
  have hcount : ∀ c ∈ g.columns, c.cells.length ≤ (g.columns.map (·.cells.length)).foldl max 0 := fun c hc =>
    have hmem : c.cells.length ∈ g.columns.map (·.cells.length) := List.mem_map.2 ⟨c, hc, rfl⟩
    le_foldl_max hmem 0
  have htitle : (∀ t ∈ if g.title.isEmpty then [] else [g.title], P t) ↔ P g.title := by
    split
    · rename_i hempty
      rw [List.isEmpty_iff.1 hempty]
      exact iff_of_true (List.forall_mem_nil _) hblank
    · exact List.forall_mem_singleton
  rw [Grid.texts, List.forall_mem_append, List.forall_mem_append, htitle, List.forall_mem_map,
    forall_mem_rows hblank hcount, and_assoc]
  simp only [forall_and]

theorem drawFault?_nil : drawFault? [] = none := rfl

/-- What a table takes, whatever its width: the markup of its texts can be read, and all of them can be drawn. -/
theorem Grid.lines_eq_ok_iff {g : Grid} {s : Screen} {lines : List Text} : g.lines s = .ok lines ↔
    ∃ columns title, g.columns.mapM (Column.plain s) = .ok columns ∧ Markup.plain s.evaluates g.title = .ok title ∧
      (drawFault? g.title = none ∧
        ∀ c ∈ g.columns, drawFault? c.header = none ∧ ∀ t ∈ c.cells, drawFault? t = none) ∧
      lines = (if g.title.isEmpty then [] else
          wrap .center .fold
            (sumOf (columnWidths (s.width - (columns.length + 1)) columns) + (columns.length + 1)) title) ++
        g.framed columns (columnWidths (s.width - (columns.length + 1)) columns) := by
  have hdraws : g.texts.findSome? drawFault? = none ↔ drawFault? g.title = none ∧
      ∀ c ∈ g.columns, drawFault? c.header = none ∧ ∀ t ∈ c.cells, drawFault? t = none :=
    List.findSome?_eq_none_iff.trans (Grid.forall_mem_texts (P := fun t => drawFault? t = none) drawFault?_nil)
  rw [Grid.lines, ← hdraws]
  cases g.columns.mapM (Column.plain s) with
  | error e => simp
  | ok columns =>
    cases Markup.plain s.evaluates g.title with
    | error e => simp
    | ok title =>
      cases g.texts.findSome? drawFault? with
      | some e => simp
      | none =>
        constructor
        · rintro ⟨⟩
          exact ⟨_, _, rfl, rfl, rfl, rfl⟩
        · rintro ⟨_, _, hcolumns, htitle, -, rfl⟩
          cases hcolumns
          cases htitle
          rfl

theorem Column.exists_plain_iff {s : Screen} {c : Column} : (∃ shown, Column.plain s c = .ok shown) ↔
    (∃ p, Markup.plain s.evaluates c.header = .ok p) ∧ ∀ t ∈ c.cells, ∃ p, Markup.plain s.evaluates t = .ok p := by
  rw [← exists_map_ok_iff]
  simp only [← mapM_eq_ok_iff]
  rw [Column.plain]
  cases Markup.plain s.evaluates c.header with
  | error e => simp
  | ok header => cases c.cells.mapM (Markup.plain s.evaluates) <;> simp

/-- A table can be shown just if each of its texts can be drawn. -/
theorem Grid.exists_lines_iff {g : Grid} {s : Screen} : (∃ lines, g.lines s = .ok lines) ↔
    (∃ p, s.drawn g.title = .ok p) ∧
      ∀ c ∈ g.columns, (∃ p, s.drawn c.header = .ok p) ∧ ∀ t ∈ c.cells, ∃ p, s.drawn t = .ok p := by
  have hread : (∃ columns, g.columns.mapM (Column.plain s) = .ok columns) ↔
      ∀ c ∈ g.columns, (∃ p, Markup.plain s.evaluates c.header = .ok p) ∧
        ∀ t ∈ c.cells, ∃ p, Markup.plain s.evaluates t = .ok p := by
    simp only [mapM_eq_ok_iff, exists_map_ok_iff, Column.exists_plain_iff]
  simp only [Grid.lines_eq_ok_iff, drawn_eq_ok_iff, exists_and_right]
  constructor
  · rintro ⟨_, columns, title, hcolumns, htitle, ⟨hfault, hfaults⟩, -⟩
    refine ⟨⟨⟨title, htitle⟩, hfault⟩, fun c hc => ?_⟩
    obtain ⟨hheader, hcells⟩ := hread.1 ⟨columns, hcolumns⟩ c hc
    exact ⟨⟨hheader, (hfaults c hc).1⟩, fun t ht => ⟨hcells t ht, (hfaults c hc).2 t ht⟩⟩
  · rintro ⟨⟨⟨title, htitle⟩, hfault⟩, hall⟩
    obtain ⟨columns, hcolumns⟩ := hread.2 fun c hc => ⟨(hall c hc).1.1, fun t ht => ((hall c hc).2 t ht).1⟩
    have hfaults : ∀ c ∈ g.columns, drawFault? c.header = none ∧ ∀ t ∈ c.cells, drawFault? t = none :=
      fun c hc => ⟨(hall c hc).1.2, fun t ht => ((hall c hc).2 t ht).2⟩
    exact ⟨_, columns, title, hcolumns, htitle, ⟨hfault, hfaults⟩, rfl⟩

end DryRun.Console
