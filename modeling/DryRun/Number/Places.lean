import DryRun.Number.Shortest

/-!
# Decimals of given length

A binary number written with a given number of places after the point (`fixed`), with a given number of
places and an exponent (`scientific`), or with a given number of digits in whichever of the two forms
suits its size (`general`). The digits are those of the exact value, rounded once, a half going to the
even digit. `point` asks for the point even if nothing stands after it.
-/

namespace DryRun.Real64

/-- The number `m * 2 ^ e` in units of `10 ^ i`, rounded. -/
def roundedAt (m : Nat) (e i : Int) : Nat :=
  roundQuotient (m * pow2 e.toNat * pow10 (-i).toNat) (pow10 i.toNat * pow2 (-e).toNat)

/-- The digits of `n` with a point before the last `places` of them. -/
def pointed (point : Bool) (places n : Nat) : Text :=
  let digits := Text.padded (places + 1) n
  let whole := digits.length - places
  digits.take whole ++ (if places == 0 && !point then [] else '.' :: digits.drop whole)

/-- The first `count` digits of `m * 2 ^ e` as a number, and the exponent of ten of the leading one. -/
def leadingDigits (count m : Nat) (e : Int) : Nat × Int :=
  if m == 0 then (0, 0)
  else
    let place := leadingPlace m e
    let n := roundedAt m e (place + 1 - count)
    if n == pow10 count then (pow10 (count - 1), place + 1) else (n, place)

/-- An exponent of ten with its sign and at least two digits. -/
def exponentText (x : Int) : Text := 'e' :: (if x < 0 then '-' else '+') :: Text.padded 2 x.natAbs

/-- The text without zeros at the end of its fraction, and without a point that nothing follows. -/
def dropFractionZeros (t : Text) : Text :=
  if t.contains '.' then
    match t.reverse.dropWhile (· == '0') with
    | '.' :: rest => rest.reverse
    | rest => rest.reverse
  else t

/-- The number with `places` digits after the point. -/
def fixed (point : Bool) (places m : Nat) (e : Int) : Text :=
  pointed point places (roundedAt m e (-(places : Int)))

/-- The number with one digit before the point, `places` after it, and an exponent. -/
def scientific (point : Bool) (places m : Nat) (e : Int) : Text :=
  let (n, x) := leadingDigits (places + 1) m e
  pointed point places n ++ exponentText x

/-- The number with `count` digits, at least one: with an exponent if it is below 10^-4 or has more than
`count` digits before the point. Zeros at the end are kept only with `point`. -/
def general (point : Bool) (count m : Nat) (e : Int) : Text :=
  let count := max count 1
  let (n, x) := leadingDigits count m e
  let trim := fun t => if point then t else dropFractionZeros t
  if -4 ≤ x && x < count then trim (pointed point ((count : Int) - 1 - x).toNat n)
  else trim (pointed point (count - 1) n) ++ exponentText x

end DryRun.Real64
