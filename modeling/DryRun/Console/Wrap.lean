import DryRun.Text.CellWidth

/-!
# Lines of a given width

A text is broken into lines at blanks, so that each line takes at most a given number of cells. A word
that is too wide is either folded over several lines or cut with an ellipsis. `wrap` breaks and aligns,
`measure` gives the width at which nothing has to be broken.
-/

namespace DryRun.Console

/-- What happens to a word that is too wide for a line. -/
inductive Overflow where
  | fold
  | ellipsis
deriving DecidableEq, Repr

/-- Where a line stands in its width. -/
inductive Align where
  /-- At the start, without filling. -/
  | natural
  | left
  | center
  | right
deriving DecidableEq, Repr

def spaces (n : Nat) : Text := List.replicate n ' '

/-! ## Width -/

/-- A character at which a text is broken into lines when it is measured. -/
def isLineBreak (c : Char) : Bool :=
  (10 ≤ c.toNat && c.toNat ≤ 13) || (28 ≤ c.toNat && c.toNat ≤ 30) || c.toNat == 0x85 ||
    c.toNat == 0x2028 || c.toNat == 0x2029

/-- The cells of the widest line of a text. -/
def measure (t : Text) : Nat :=
  ((Text.splitBy isLineBreak t).map Text.cells).foldl max 0

/-- The width of a text with one space on each side, if there is room for `room` cells. -/
def paddedMeasure (room : Nat) (t : Text) : Nat :=
  if room ≤ 2 then room else min (min (measure t) room + 2) room

/-- The clusters at the head that take at most `width` cells. One that is cut in half becomes a space. -/
def cropClusters : Nat → List Text.Cluster → Text
  | _, [] => []
  | width, c :: cs =>
    if width == 0 then []
    else if c.cells ≤ width then c.text ++ cropClusters (width - c.cells) cs
    else [' ']

/-- The longest beginning of a text that takes at most `width` cells. -/
def crop (width : Nat) (t : Text) : Text := cropClusters width (Text.clusters t)

/-- The text cut or filled with spaces to `width` cells. -/
def fit (width : Nat) (t : Text) : Text :=
  if width < Text.cells t then crop width t else t ++ spaces (width - Text.cells t)

/-- The text cut to `width` cells if it is wider. -/
def truncate (overflow : Overflow) (width : Nat) (t : Text) : Text :=
  if width < Text.cells t then
    match overflow with
    | .ellipsis => crop (width - 1) t ++ ['…']
    | .fold => crop width t
  else t

/-- The line in its place within `width` cells. -/
def align (a : Align) (overflow : Overflow) (width : Nat) (line : Text) : Text :=
  match a with
  | .natural => truncate overflow width line
  | .left =>
    let line := truncate overflow width line
    line ++ spaces (width - Text.cells line)
  | .center =>
    let line := truncate overflow width (Text.stripRight line)
    let free := width - Text.cells line
    spaces (free / 2) ++ line ++ spaces (free - free / 2)
  | .right =>
    let line := truncate overflow width (Text.stripRight line)
    spaces (width - Text.cells line) ++ line

/-! ## Breaking lines -/

/-- The first word of a line with the blanks around it, and what follows. -/
def nextWord? (t : Text) : Option (Text × Text) :=
  let lead := t.takeWhile Text.isBlank
  let rest := t.drop lead.length
  let body := rest.takeWhile (!Text.isBlank ·)
  let tail := (rest.drop body.length).takeWhile Text.isBlank
  if body.isEmpty then none else some (lead ++ body ++ tail, rest.drop (body.length + tail.length))

/-- At most `fuel` words from the start of a line, each with the blanks around it. -/
def wordsFrom : Nat → Text → List Text
  | 0, _ => []
  | fuel + 1, t =>
    match nextWord? t with
    | some (word, rest) => word :: wordsFrom fuel rest
    | none => []

/-- Puts clusters into pieces of at most `width` cells; `current` is the open piece, reversed, and takes
`used` cells. A last piece that takes no cells is left out. -/
def chopFrom (width : Nat) (current : List Text) (used : Nat) : List Text.Cluster → List Text
  | [] => if used == 0 then [] else [current.reverse.flatten]
  | c :: cs =>
    if used + c.cells ≤ width then chopFrom width (c.text :: current) (used + c.cells) cs
    else current.reverse.flatten :: chopFrom width [c.text] c.cells cs

/-- The pieces of a word, each of at most `width` cells. -/
def chop (width : Nat) (word : Text) : List Text := chopFrom width [] 0 (Text.clusters word)

/-- The positions at which consecutive pieces begin. -/
def starts : Nat → List Text → List Nat
  | _, [] => []
  | position, piece :: pieces => position :: starts (position + piece.length) pieces

/-- The positions at which a line is broken. The first of the words begins at `start`, and `used` cells
of its line are taken. -/
def breaks (overflow : Overflow) (width : Nat) : Nat → Nat → List Text → List Nat
  | _, _, [] => []
  | start, used, word :: words =>
    let next := start + word.length
    let needed := Text.cells (Text.stripRight word)
    if used + needed ≤ width then breaks overflow width next (used + Text.cells word) words
    else if width < needed then
      match overflow with
      | .fold =>
        let pieces := chop width word
        starts start pieces ++
          breaks overflow width next (Text.cells (pieces.getLast?.getD [])) words
      | .ellipsis => start :: breaks overflow width next (Text.cells word) words
    else start :: breaks overflow width next (Text.cells word) words

/-- The parts of a line between the given positions; `position` is where the text begins. -/
def cutAt : Nat → List Nat → Text → List Text
  | _, [], t => [t]
  | position, b :: bs, t => t.take (b - position) :: cutAt b bs (t.drop (b - position))

/-- The parts of a line between its tabs, with spaces up to the next multiple of eight cells, at least
one, for each tab; `column` counts the cells before them. -/
def joinTabbed : Nat → List Text → Text
  | _, [] => []
  | _, [part] => part
  | column, part :: parts =>
    let part := part ++ [' ']
    let column := column + Text.cells part
    let free := (8 - column % 8) % 8
    part ++ spaces free ++ joinTabbed (column + free) parts

/-- The line with spaces for its tabs. -/
def expandTabs (line : Text) : Text := joinTabbed 0 (Text.splitBy (· == '\t') line)

/-- The line without the blanks at its end that stand beyond `width` characters. -/
def trimEnd (width : Nat) (line : Text) : Text :=
  let blanks := line.length - (Text.stripRight line).length
  line.take (line.length - min blanks (line.length - width))

/-- The lines of a text, each aligned in `width` cells; without any cells there are none. -/
def wrap (a : Align) (overflow : Overflow) (width : Nat) (t : Text) : List Text :=
  if width == 0 then []
  else (Text.lines t).flatMap fun line =>
    let line := expandTabs line
    -- a break at the start of the line would put an empty line before it
    let positions := (breaks overflow width 0 0 (wordsFrom line.length line)).filter (· != 0)
    (cutAt 0 positions line).map fun part => align a overflow width (trimEnd width part)

end DryRun.Console
