import BuildDispatch.Decimal.Shortest

/-!
Decimal texts of fractions, rounded to so many places: positional, with an exponent, or whichever of
the two is meant for the size of the number.  Halves go to even digits, and all arithmetic is exact.
-/

namespace BuildDispatch.Decimal

/-- A text of digits with a point before the last so many of them. -/
def withPoint (digits places : Nat) (keepsPoint : Bool) : List Char :=
  let text := Nat.toDigits 10 digits
  let text := List.replicate (places + 1 - text.length) '0' ++ text
  let whole := text.take (text.length - places)
  if places = 0 && !keepsPoint then whole else whole ++ '.' :: text.drop (text.length - places)

/-- `num / den` written positionally with so many places. -/
def fixedText (places : Nat) (keepsPoint : Bool) (num den : Nat) : List Char :=
  withPoint (Binary64.roundHalfEven (num * tenTo places) den) places keepsPoint

/-- The digits of `num / den`, one before the point and so many behind it, and the power of ten of
the first one. -/
def leadingDigits (places num den : Nat) : Nat × Int :=
  if num = 0 then (0, 0)
  else
    let top := Binary64.magnitude num den - 1
    let scale := top - places
    let digits := Binary64.roundHalfEven (num * tenTo (-scale).toNat) (den * tenTo scale.toNat)
    if digits = tenTo (places + 1) then (tenTo places, top + 1) else (digits, top)

/-- An exponent, with its sign and at least two digits. -/
def exponentText (e : Int) : List Char :=
  let digits := Nat.toDigits 10 e.natAbs
  'e' :: (if e < 0 then '-' else '+') :: (List.replicate (2 - digits.length) '0' ++ digits)

/-- `num / den` with one digit before the point, so many behind it, and an exponent. -/
def scientificText (places : Nat) (keepsPoint : Bool) (num den : Nat) : List Char :=
  let (digits, top) := leadingDigits places num den
  withPoint digits places keepsPoint ++ exponentText top

/-- A text without the zeros at the end of its places. -/
def withoutTrailingZeros (text : List Char) : List Char :=
  if text.contains '.' then
    ((text.reverse.dropWhile (· == '0')).dropWhile (· == '.')).reverse
  else text

/-- `num / den` with so many digits that count: positional if the exponent is small, without zeros
at the end unless they are kept. -/
def generalText (digits : Nat) (keepsZeros : Bool) (num den : Nat) : List Char :=
  let precision := max 1 digits
  let (_, top) := leadingDigits (precision - 1) num den
  if -4 ≤ top && top < precision then
    let text := fixedText ((precision : Int) - 1 - top).toNat keepsZeros num den
    if keepsZeros then text else withoutTrailingZeros text
  else
    let (own, top) := leadingDigits (precision - 1) num den
    let text := withPoint own (precision - 1) keepsZeros
    (if keepsZeros then text else withoutTrailingZeros text) ++ exponentText top

namespace Binary64

/-- `significand * 2 ^ exponent` as a fraction. -/
def fraction (significand : Nat) (exponent : Int) : Nat × Nat :=
  (significand * twoTo exponent.toNat, twoTo (-exponent).toNat)

end Binary64

end BuildDispatch.Decimal
