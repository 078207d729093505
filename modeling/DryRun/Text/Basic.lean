/-!
# Texts

A text is the list of its code points, so that offsets, spans and lengths are positions in a list.
The module holds blank characters, trimming, splitting and joining, and look-up in tables of code
point ranges.
-/

namespace DryRun

/-- A text, as the list of its code points. -/
abbrev Text := List Char

instance : Coe String Text := ⟨String.toList⟩

namespace Text

/-! ## Tables of code points -/

/-- Whether the code point of `c` lies in one of the closed ranges. -/
def inRanges (ranges : List (Nat × Nat)) (c : Char) : Bool :=
  ranges.any fun r => r.1 ≤ c.toNat && c.toNat ≤ r.2

/-- Every `step`-th code point from `first` to `last` maps to the code point at the same distance
from `image`. -/
structure CaseRun where
  first : Nat
  last : Nat
  step : Nat
  image : Nat

/-- The image of a character under a list of runs; a character outside of them is kept. -/
def CaseRun.map (runs : List CaseRun) (c : Char) : Char :=
  match runs.find? fun r => r.first ≤ c.toNat && c.toNat ≤ r.last &&
      (c.toNat - r.first) % r.step == 0 with
  | some r => Char.ofNat (r.image + (c.toNat - r.first))
  | none => c

/-! ## Blanks -/

/-- Blank characters from code point 128 on. -/
def blankRanges : List (Nat × Nat) :=
  [(0x85, 0x85), (0xa0, 0xa0), (0x1680, 0x1680), (0x2000, 0x200a), (0x2028, 0x2029),
   (0x202f, 0x202f), (0x205f, 0x205f), (0x3000, 0x3000)]

/-- A character that separates words: space, tab, line ends, the separator controls and the spaces
of all scripts. The zero-width space is not among them. -/
def isBlank (c : Char) : Bool :=
  if c.toNat < 128 then c == ' ' || (9 ≤ c.toNat && c.toNat ≤ 13) || (28 ≤ c.toNat && c.toNat ≤ 31)
  else inRanges blankRanges c

def stripLeft (t : Text) : Text := t.dropWhile isBlank

def stripRight (t : Text) : Text := (t.reverse.dropWhile isBlank).reverse

/-- The text without the blanks at either end. -/
def strip (t : Text) : Text := stripRight (stripLeft t)

/-- A blank that may surround a number: any but the separator controls. -/
def isMargin (c : Char) : Bool := isBlank c && !(28 ≤ c.toNat && c.toNat ≤ 31)

/-- The text without the blanks that may surround a number. -/
def trimMargin (t : Text) : Text := ((t.dropWhile isMargin).reverse.dropWhile isMargin).reverse

/-- Whether the text holds nothing but blanks. -/
def isBlankText (t : Text) : Bool := t.all isBlank

/-! ## Splitting and joining -/

/-- Splits at every character that satisfies `p`; `current` is the open piece, reversed. -/
def splitAux (p : Char → Bool) : Text → Text → List Text
  | current, [] => [current.reverse]
  | current, c :: cs =>
    if p c then current.reverse :: splitAux p [] cs else splitAux p (c :: current) cs

/-- The pieces between the characters that satisfy `p`, empty ones included. -/
def splitBy (p : Char → Bool) (t : Text) : List Text := splitAux p [] t

/-- The words of a text: its maximal runs without blanks. -/
def words (t : Text) : List Text := (splitBy isBlank t).filter (!·.isEmpty)

/-- The pieces between line feeds. -/
def lines (t : Text) : List Text := splitBy (· == '\n') t

/-- The pieces one after the other with `separator` between them. -/
def join (separator : Text) : List Text → Text
  | [] => []
  | [t] => t
  | t :: ts => t ++ separator ++ join separator ts

/-- What follows `lead` if the text begins with it. -/
def after? (lead : Text) (t : Text) : Option Text :=
  match lead, t with
  | [], t => some t
  | c :: cs, d :: ds => if c == d then after? cs ds else none
  | _ :: _, [] => none

def startsWith (t lead : Text) : Bool := (after? lead t).isSome

/-! ## Numbers and truth values -/

/-- The decimal digits of a natural number. -/
def ofNat (n : Nat) : Text := Nat.toDigits 10 n

/-- The decimal digits of an integer, after a minus sign if it is negative. -/
def ofInt : Int → Text
  | .ofNat n => ofNat n
  | .negSucc n => '-' :: ofNat (n + 1)

/-- The digits of `n` with zeros in front up to `width` places. -/
def padded (width n : Nat) : Text :=
  let digits := ofNat n
  List.replicate (width - digits.length) '0' ++ digits

/-- The text of a truth value. -/
def ofBool (b : Bool) : Text := if b then "True".toList else "False".toList

/-- An ASCII digit. -/
def isDigit (c : Char) : Bool := '0' ≤ c && c ≤ '9'

/-- The value of a hexadecimal digit. -/
def hexDigit? (c : Char) : Option Nat :=
  if isDigit c then some (c.toNat - '0'.toNat)
  else if 'a' ≤ c && c ≤ 'f' then some (c.toNat - 'a'.toNat + 10)
  else if 'A' ≤ c && c ≤ 'F' then some (c.toNat - 'A'.toNat + 10)
  else none

/-- The hexadecimal digit, in lower case, of a number below 16. -/
def hexChar (n : Nat) : Char :=
  if n < 10 then Char.ofNat (n + '0'.toNat) else Char.ofNat (n - 10 + 'a'.toNat)

/-- The last `width` hexadecimal digits of `n`, in lower case. -/
def hex : Nat → Nat → Text
  | 0, _ => []
  | width + 1, n => hex width (n / 16) ++ [hexChar (n % 16)]

/-- The number written by decimal digits; none if the text is empty or holds anything else. -/
def toNat? (t : Text) : Option Nat :=
  if t.isEmpty || !t.all isDigit then none
  else some (t.foldl (fun n c => n * 10 + (c.toNat - '0'.toNat)) 0)

/-! ## Order -/

/-- Whether `a` comes before `b` by code points. -/
def before : Text → Text → Bool
  | _, [] => false
  | [], _ :: _ => true
  | a :: as, b :: bs => a < b || (a == b && before as bs)

end Text

end DryRun
