import DryRun.Console.Markup
import DryRun.Console.Wrap

/-!
# Panels on the console

A panel is a text inside a frame whose upper line carries a title. The frame is as wide as the text or
the title asks for, but no wider than the console.
-/

namespace DryRun.Console

/-- A text with a title. -/
structure Panel where
  /-- Plain text on one line. -/
  title : Text
  /-- Text with markup. -/
  body : Text
deriving DecidableEq, Repr

/-- The text in the middle of `width` cells, with the smaller half of the filling on its left. -/
def centred (fill : Char) (width : Nat) (t : Text) : Text :=
  let t := truncate .fold width t
  let free := width - Text.cells t
  List.replicate (free / 2) fill ++ t ++ List.replicate (free - free / 2) fill

def Panel.lines (p : Panel) (s : Screen) : Except Markup.Error (List Text) :=
  match s.drawn p.body with
  | .error e => .error e
  | .ok body =>
    let room := s.width - 2
    let title := [' '] ++ p.title ++ [' ']
    let inner := min room (max (paddedMeasure room body) (Text.cells title + 2))
    let upper :=
      if inner ≤ 2 then List.replicate inner '─'
      else '─' :: centred '─' (inner - 2) title ++ ['─']
    let middle := (wrap .natural .fold (inner - 2) body).map fun line =>
      ['│', ' '] ++ fit (inner - 2) line ++ [' ', '│']
    .ok ([['╭'] ++ upper ++ ['╮']] ++ middle ++ [['╰'] ++ List.replicate inner '─' ++ ['╯']])

end DryRun.Console
