import BuildDispatch.Decimal.Binary64

/-!
Hexadecimal texts of binary floating point numbers: one digit before the point, and a power of two.
-/

namespace BuildDispatch.Decimal

/-- `m * 2 ^ e`, with fewer than 53 binary digits or just as many in `m`, written with so many
places behind the point, the last of which is rounded, or with as many as it has. -/
def hexadecimalText (places : Option Nat) (keepsPoint : Bool) (m : Nat) (e : Int) : List Char :=
  let exponent : Int := if m = 0 then 0 else e + 52
  let (digits, count) := match places with
    | none => trimmed 13 m
    | some n =>
      if n < 13 then (Binary64.roundHalfEven m (twoTo (4 * (13 - n))), n)
      else (m * twoTo (4 * (n - 13)), n)
  let text := Nat.toDigits 16 digits
  let text := List.replicate (count + 1 - text.length) '0' ++ text
  let behind := text.drop (text.length - count)
  let point := if count = 0 && !keepsPoint then [] else ['.']
  text.take (text.length - count) ++ point ++ behind ++
    'p' :: (if exponent < 0 then '-' else '+') :: Nat.toDigits 10 exponent.natAbs
where
  /-- A number without the hexadecimal zeros at its end, at most so many, and how many are left. -/
  trimmed : (count m : Nat) → Nat × Nat
    | 0, m => (m, 0)
    | count + 1, m => if m % 16 = 0 then trimmed count (m / 16) else (m, count + 1)

end BuildDispatch.Decimal
