/-!
# Binary numbers of 53 bits

The numbers of the binary64 format, with arithmetic in exact integers: a finite number is a sign, a
mantissa below 2^53 and an exponent of two. `ofRatio` rounds a positive quotient to the nearest such
number, a half to the even mantissa; everything else here is exact.
-/

namespace DryRun

/-- A number of the binary64 format. -/
inductive Real64 where
  /-- The number `mantissa * 2 ^ exponent`, negated if `negative`. -/
  | finite (negative : Bool) (mantissa : Nat) (exponent : Int)
  | infinite (negative : Bool)
  | nan
deriving DecidableEq, Repr

namespace Real64

/-- The least exponent. -/
def leastExponent : Int := -1074

/-- The greatest exponent. -/
def greatestExponent : Int := 971

def pow2 (n : Nat) : Nat := Nat.pow 2 n

def pow10 (n : Nat) : Nat := Nat.pow 10 n

/-- The natural number nearest to `num / den`, a half going to the even one. -/
def roundQuotient (num den : Nat) : Nat :=
  let q := num / den
  let twice := 2 * (num % den)
  if twice < den then q
  else if den < twice then q + 1
  else if q % 2 == 0 then q else q + 1

/-- The quotient `num / den * 2 ^ (-e)` rounded to a natural number. -/
def scaledQuotient (num den : Nat) (e : Int) : Nat :=
  roundQuotient (num * pow2 (-e).toNat) (den * pow2 e.toNat)

/-- The exponent that gives `num / den` a mantissa of 53 bits, or the least one. -/
def ratioExponent (num den : Nat) : Int :=
  let guess : Int := (Nat.log2 num : Int) - (Nat.log2 den : Int) - 52
  let e := if num * pow2 (-guess).toNat < pow2 52 * (den * pow2 guess.toNat) then guess - 1 else guess
  if e < leastExponent then leastExponent else e

/-- The number nearest to `num / den`. -/
def ofRatio (negative : Bool) (num den : Nat) : Real64 :=
  if num == 0 then .finite negative 0 leastExponent
  else
    let e := ratioExponent num den
    let m := scaledQuotient num den e
    let (m, e) := if m == pow2 53 then (pow2 52, e + 1) else (m, e)
    if greatestExponent < e then .infinite negative else .finite negative m e

/-- The number nearest to `digits * 10 ^ exponent`. A decimal beyond the range of the format is not
written out. -/
def ofDecimal (negative : Bool) (digits : Nat) (exponent : Int) : Real64 :=
  let places : Int := (Nat.toDigits 10 digits).length + exponent
  if digits == 0 || places < -400 then .finite negative 0 leastExponent
  else if 400 < places then .infinite negative
  else ofRatio negative (digits * pow10 exponent.toNat) (pow10 (-exponent).toNat)

/-- The number nearest to an integer. -/
def ofInt (n : Int) : Real64 := ofRatio (n < 0) n.natAbs 1

/-- The integer part of the magnitude, and the part after the point as a numerator over a power of
two. -/
def split (mantissa : Nat) (exponent : Int) : Nat × Nat × Nat :=
  let den := pow2 (-exponent).toNat
  let num := mantissa * pow2 exponent.toNat
  (num / den, num % den, den)

/-- The integer a number is equal to, if it is one. -/
def toInt? : Real64 → Option Int
  | .finite negative m e =>
    match split m e with
    | (whole, 0, _) => some (if negative then -(whole : Int) else whole)
    | _ => none
  | _ => none

end Real64

end DryRun
