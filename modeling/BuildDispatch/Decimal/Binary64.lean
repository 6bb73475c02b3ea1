import BuildDispatch.Decimal.Power

/-!
Binary floating point numbers with 53 significant bits, and the nearest one to a decimal number.
All arithmetic is exact: a number is a natural significand and an integer exponent of two.
-/

namespace BuildDispatch.Decimal

/-- A 64-bit binary floating point value; `finite` stands for `± significand * 2 ^ exponent`. -/
inductive Binary64 where
  | finite (negative : Bool) (significand : Nat) (exponent : Int)
  | infinite (negative : Bool)
  | nan
  deriving Repr, DecidableEq

namespace Binary64

/-- The exponent of the least positive value. -/
def leastExponent : Int := -1074

/-- The greatest exponent of a finite value. -/
def greatestExponent : Int := 971

/-- `num / den` to the nearest natural number, a half to the even one. -/
def roundHalfEven (num den : Nat) : Nat :=
  let quotient := num / den
  let twice := 2 * (num % den)
  if den < twice || (twice == den && quotient % 2 == 1) then quotient + 1 else quotient

/-- `num / den * 2 ^ (-e)` as a fraction. -/
def shifted (num den : Nat) (e : Int) : Nat × Nat :=
  (num * twoTo (-e).toNat, den * twoTo e.toNat)

/-- The exponent at which the positive fraction `num / den` has 53 binary digits before the point,
or the least one. -/
def exponentFor (num den : Nat) : Int :=
  let guess : Int := (num.log2 : Int) - (den.log2 : Int)
  let (n, d) := shifted num den guess
  max (if d ≤ n then guess - 52 else guess - 53) leastExponent

/-- The value nearest to `± num / den`, ties to an even significand, infinite when out of range. -/
def ofFraction (negative : Bool) (num den : Nat) : Binary64 :=
  if num = 0 then .finite negative 0 leastExponent
  else
    let e := exponentFor num den
    let (n, d) := shifted num den e
    let m := roundHalfEven n d
    let (m, e) := if m = twoTo 53 then (twoTo 52, e + 1) else (m, e)
    if greatestExponent < e then .infinite negative else .finite negative m e

/-- The value nearest to `± coefficient * 10 ^ power`.  Powers far outside the range are settled
from the number of digits alone. -/
def ofDecimal (negative : Bool) (coefficient : Nat) (power : Int) : Binary64 :=
  let magnitude : Int := (Nat.toDigits 10 coefficient).length + power
  if coefficient = 0 || magnitude < -330 then .finite negative 0 leastExponent
  else if 320 < magnitude then .infinite negative
  else ofFraction negative (coefficient * tenTo power.toNat) (tenTo (-power).toNat)

end Binary64

end BuildDispatch.Decimal
