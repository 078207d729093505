import DryRun.Number.Real64
import DryRun.Text.Basic

/-!
# The shortest decimal of a binary number

The decimal with the fewest digits that reads back as a given binary number, of several the nearest.
For one, two and more digits the two neighbours of the number on that decimal grid are tested against
the interval of reals that round to it.
-/

namespace DryRun.Real64

/-- The decimal `digits * 10 ^ exponent`. -/
structure Decimal where
  digits : Nat
  exponent : Int
deriving DecidableEq, Repr

/-- Compares `a * 10 ^ i` with `n * 2 ^ j`. -/
def compareScaled (a : Nat) (i : Int) (n : Nat) (j : Int) : Ordering :=
  compare (a * pow10 i.toNat * pow2 (-j).toNat) (n * pow2 j.toNat * pow10 (-i).toNat)

/-- Whether a decimal lies among the reals that round to `m * 2 ^ e`, the ends of that interval counting
if `m` is even. Below a power of two the interval is half as wide. -/
def readsBack (m : Nat) (e : Int) (d : Decimal) : Bool :=
  let narrow := m == pow2 52 && leastExponent < e
  let low := compareScaled d.digits d.exponent (if narrow then 4 * m - 1 else 4 * m - 2) (e - 2)
  let high := compareScaled d.digits d.exponent (4 * m + 2) (e - 2)
  let ends := m % 2 == 0
  (low == .gt || (ends && low == .eq)) && (high == .lt || (ends && high == .eq))

/-- The greatest `a` with `a * 10 ^ i` at most `m * 2 ^ e`. -/
def gridFloor (m : Nat) (e i : Int) : Nat :=
  (m * pow2 e.toNat * pow10 (-i).toNat) / (pow10 i.toNat * pow2 (-e).toNat)

/-- The decimal nearest to `m * 2 ^ e` on the grid of `10 ^ i`, if one of the two neighbours reads back;
of two at the same distance the even one. -/
def onGrid? (m : Nat) (e i : Int) : Option Decimal :=
  let below := gridFloor m e i
  let low : Decimal := ⟨below, i⟩
  let high : Decimal := ⟨below + 1, i⟩
  match readsBack m e low, readsBack m e high with
  | true, true =>
    match compareScaled (2 * below + 1) i (2 * m) e with
    | .gt => some low
    | .lt => some high
    | .eq => some (if below % 2 == 0 then low else high)
  | true, false => some low
  | false, true => some high
  | false, false => none

/-- The exponent of ten of the leading digit of `m * 2 ^ e`. -/
def leadingPlace (m : Nat) (e : Int) : Int :=
  let places : Int := (Nat.toDigits 10 (gridFloor m e (-400))).length
  places - 401

/-- Moves the zeros at the end of the digits into the exponent. -/
def dropZeros : Nat → Decimal → Decimal
  | 0, d => d
  | fuel + 1, d =>
    if d.digits != 0 && d.digits % 10 == 0 then dropZeros fuel ⟨d.digits / 10, d.exponent + 1⟩ else d

/-- The shortest decimal of the positive number `m * 2 ^ e`. Seventeen digits always suffice. -/
def shortest (m : Nat) (e : Int) : Decimal :=
  let place := leadingPlace m e
  let found := (List.range 17).findSome? fun (n : Nat) => onGrid? m e (place - (n : Int))
  dropZeros 400 (found.getD ⟨gridFloor m e (place - 16), place - 16⟩)

/-- The text of a positive decimal: with a point if the leading digit stands for 10^-4 to 10^15, else
with an exponent of at least two digits and its sign. -/
def Decimal.text (d : Decimal) : Text :=
  let digits := Text.ofNat d.digits
  let count : Int := digits.length
  let lead := d.exponent + count - 1
  if -4 ≤ lead && lead < 16 then
    if 0 ≤ d.exponent then digits ++ List.replicate d.exponent.toNat '0' ++ ".0".toList
    else if 0 < d.exponent + count then
      let whole := (d.exponent + count).toNat
      digits.take whole ++ ['.'] ++ digits.drop whole
    else "0.".toList ++ List.replicate (-(d.exponent + count)).toNat '0' ++ digits
  else
    let mantissa := match digits with
      | [c] => [c]
      | c :: cs => c :: '.' :: cs
      | [] => []
    mantissa ++ (if lead < 0 then "e-".toList else "e+".toList) ++ Text.padded 2 lead.natAbs

/-- The texts of the values that are no finite number. -/
structure SpecialTexts where
  nan : Text
  infinity : Text

/-- The text of a number with the fewest digits that read back. -/
def text (special : SpecialTexts) : Real64 → Text
  | .nan => special.nan
  | .infinite negative => if negative then '-' :: special.infinity else special.infinity
  | .finite negative m e =>
    let magnitude := if m == 0 then "0.0".toList else (shortest m e).text
    if negative then '-' :: magnitude else magnitude

end DryRun.Real64
