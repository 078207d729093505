import DryRun.Console.Markup
import DryRun.Console.Wrap
import DryRun.Number.Real64

/-!
# Tables on the console

A table has columns with a header and one cell for each row, drawn inside a frame. Each column is as wide
as its widest cell; if the table would be wider than the console, the widest columns give way first. Cells
are texts with markup, and may take several lines.
-/

namespace DryRun.Console

/-- A column of a table. -/
structure Column where
  header : Text
  align : Align := .left
  overflow : Overflow := .ellipsis
  cells : List Text
deriving DecidableEq, Repr

/-- A table. -/
structure Grid where
  /-- Stands above the frame; no line is spent on an empty one. -/
  title : Text
  columns : List Column
  /-- Whether lines are drawn between rows. -/
  ruled : Bool := false
deriving DecidableEq, Repr

/-! ## Plain text -/

/-- The column with its markup resolved. -/
def Column.plain (s : Screen) (c : Column) : Except Markup.Error Column :=
  match Markup.plain s.evaluates c.header with
  | .error e => .error e
  | .ok header =>
    match c.cells.mapM (Markup.plain s.evaluates) with
    | .error e => .error e
    | .ok cells => .ok { c with header, cells }

/-- The cells of a column from the top, its header first. -/
def Column.all (c : Column) : List Text := c.header :: c.cells

/-! ## Widths -/

/-- The width that a column asks for within `room` cells. -/
def Column.measure (room : Nat) (c : Column) : Nat :=
  (c.all.map (paddedMeasure room)).foldl max 0

def sumOf (widths : List Nat) : Nat := widths.foldl Nat.add 0

/-- Takes `total` cells away from the values, in proportion to their ratios and from none more than its
limit. Each entry is a ratio, a limit and a value; `ratios` is the sum of the ratios. -/
def reduceFrom : Nat → Nat → List (Nat × Nat × Nat) → List Nat
  | _, _, [] => []
  | total, ratios, (ratio, limit, value) :: rest =>
    if ratio == 0 || ratios == 0 then value :: reduceFrom total ratios rest
    else
      let share := min limit (Real64.roundQuotient (ratio * total) ratios)
      (value - share) :: reduceFrom (total - share) (ratios - ratio) rest

/-- Takes `total` cells away from the values. A value whose limit is zero is left alone. -/
def reduce (total : Nat) (entries : List (Nat × Nat × Nat)) : List Nat :=
  let entries := entries.map fun (ratio, limit, value) => (if limit == 0 then 0 else ratio, limit, value)
  reduceFrom total (sumOf (entries.map (·.1))) entries

/-- Makes the widest columns narrower, down to the next widest at a time, until all fit in `room` cells;
at most `fuel` times. -/
def collapse (room : Nat) : Nat → List Nat → List Nat
  | 0, widths => widths
  | fuel + 1, widths =>
    let excess := sumOf widths - room
    let widest := widths.foldl max 0
    let second := (widths.filter (· != widest)).foldl max 0
    if excess == 0 || widest == second then widths
    else
      let limit := min excess (widest - second)
      collapse room fuel (reduce excess (widths.map fun w => (if w == widest then 1 else 0, limit, w)))

/-- The widths of columns that share `room` cells. -/
def columnWidths (room : Nat) (columns : List Column) : List Nat :=
  let asked := columns.map fun c => max 1 (c.measure room)
  if sumOf asked ≤ room then asked
  else
    let narrowed := collapse room (columns.length + 1) asked
    let widths :=
      if sumOf narrowed ≤ room then narrowed
      else reduce (sumOf narrowed - room) (narrowed.map fun w => (1, w, w))
    (columns.zip widths).map fun (c, width) => c.measure width

/-! ## Drawing -/

def frameLine (first fill between last : Char) (widths : List Nat) : Text :=
  first :: Text.join [between] (widths.map fun w => List.replicate w fill) ++ [last]

/-- The lines of a cell, one space away from the sides of its column. -/
def cellLines (c : Column) (width : Nat) (t : Text) : List Text :=
  (wrap c.align c.overflow (width - 2) t).map fun line => [' '] ++ fit (width - 2) line ++ [' ']

/-- The cells of a row with as many lines each as the tallest, blank lines above or below. -/
def alignRows (blanksAbove : Bool) (widths : List Nat) (row : List (List Text)) : List (List Text) :=
  let height := (row.map List.length).foldl max 1
  (row.zip widths).map fun (lines, width) =>
    let blank := List.replicate (height - lines.length) (spaces width)
    if blanksAbove then blank ++ lines else lines ++ blank

/-- The lines across the cells of a row, which all have the same number of lines. -/
def acrossRow (height : Nat) (bar : Char) (row : List (List Text)) : List Text :=
  (List.range height).map fun i =>
    bar :: Text.join [bar] (row.map fun lines => lines.getD i []) ++ [bar]

def rowLines (blanksAbove : Bool) (bar : Char) (columns : List Column) (widths : List Nat)
    (row : List Text) : List Text :=
  let drawn := (columns.zip (widths.zip row)).map fun (c, width, t) => cellLines c width t
  let aligned := alignRows blanksAbove widths drawn
  acrossRow ((aligned.map List.length).foldl max 1) bar aligned

/-- The rows of cells of columns with `count` cells each. -/
def rowsOf (count : Nat) (columns : List Column) : List (List Text) :=
  (List.range count).map fun i => columns.map fun c => c.cells.getD i []

/-- The lines of all rows, with lines of the frame between them if the table is ruled. -/
def bodyLines (rule : List Text) : List (List Text) → List Text
  | [] => []
  | [row] => row
  | row :: rows => row ++ rule ++ bodyLines rule rows

def Grid.framed (g : Grid) (columns : List Column) (widths : List Nat) : List Text :=
  let count := (columns.map (·.cells.length)).foldl max 0
  let rule := if g.ruled then [frameLine '├' '─' '┼' '┤' widths] else []
  [frameLine '┏' '━' '┳' '┓' widths] ++
    rowLines true '┃' columns widths (columns.map (·.header)) ++
    [frameLine '┡' '━' '╇' '┩' widths] ++
    bodyLines rule ((rowsOf count columns).map (rowLines false '│' columns widths)) ++
    [frameLine '└' '─' '┴' '┘' widths]

/-- The texts of a table in the order in which they are drawn. -/
def Grid.texts (g : Grid) : List Text :=
  let count := (g.columns.map (·.cells.length)).foldl max 0
  (if g.title.isEmpty then [] else [g.title]) ++
    g.columns.map (·.header) ++ (rowsOf count g.columns).flatten

/-- The lines of a table. The markup of the columns is read before that of the title, and all of it before
anything is drawn. -/
def Grid.lines (g : Grid) (s : Screen) : Except Markup.Error (List Text) :=
  match g.columns.mapM (Column.plain s) with
  | .error e => .error e
  | .ok columns =>
    match Markup.plain s.evaluates g.title with
    | .error e => .error e
    | .ok title =>
      match g.texts.findSome? Markup.drawFault? with
      | some e => .error e
      | none =>
        let edges := columns.length + 1
        let widths := columnWidths (s.width - edges) columns
        let above := if g.title.isEmpty then [] else wrap .center .fold (sumOf widths + edges) title
        .ok (above ++ g.framed columns widths)

end DryRun.Console
