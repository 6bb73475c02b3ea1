import BuildDispatch.Toml.Reader
import BuildDispatch.Toml.Value

/-!
Integers and floats of TOML.  Integers have 64 bits; a float that would be positive infinity by
overflow is refused.
-/

namespace BuildDispatch.Toml

namespace Number

/-- An optional sign; whether it is a minus. -/
def readSign : List Char → Bool × List Char
  | '-' :: r => (true, r)
  | '+' :: r => (false, r)
  | s => (false, s)

/-- Decimal digits without a leading zero, or a single zero. -/
def readDigits : Reader (List Char)
  | '0' :: r => some (['0'], r)
  | s => digitRun Char.isDigit s

/-- Whether a number fits 64 bits with a sign. -/
def fitsInteger (n : Int) : Bool := -9223372036854775808 ≤ n && n ≤ 9223372036854775807

/-- An unsigned integer of digits to a base, after the mark of the base. -/
def readBased (base : Nat) (isDigit : Char → Bool) : Reader Value := fun s => do
  let (digits, r) ← digitRun isDigit s
  let n : Int := digitsValue base digits
  if fitsInteger n then some (.integer n, r) else none

/-- An integer to the base ten, or to the base that its mark names. -/
def readInteger : Reader Value
  | '0' :: 'x' :: r => readBased 16 isHexDigit r
  | '0' :: 'o' :: r => readBased 8 isOctalDigit r
  | '0' :: 'b' :: r => readBased 2 isBinaryDigit r
  | s => do
    let (negative, r) := readSign s
    let (digits, r) ← readDigits r
    let magnitude : Int := digitsValue 10 digits
    let n := if negative then -magnitude else magnitude
    if fitsInteger n then some (.integer n, r) else none

/-- A point and the digits after it. -/
def readFraction? : List Char → Option (List Char × List Char)
  | '.' :: r => digitRun Char.isDigit r
  | _ => none

/-- The letter `e` and a power of ten. -/
def readPower? : List Char → Option (Int × List Char)
  | c :: r =>
    if c = 'e' || c = 'E' then do
      let (negative, r) := readSign r
      let (digits, r) ← digitRun Char.isDigit r
      let n : Int := digitsValue 10 digits
      some (if negative then -n else n, r)
    else none
  | [] => none

/-- A decimal with a fraction, a power of ten, or both. -/
def readDecimal : Reader Value := fun s => do
  let (negative, r) := readSign s
  let (whole, r) ← readDigits r
  let (places, power, r) ← match readFraction? r with
    | some (places, r) =>
      match readPower? r with
      | some (power, r) => some (places, power, r)
      | none => some (places, 0, r)
    | none => (readPower? r).map fun (power, r) => ([], power, r)
  let x := Decimal.Binary64.ofDecimal negative (digitsValue 10 (whole ++ places))
    (power - places.length)
  if x = .infinite false then none else some (.float x, r)

/-- Infinity and the value that is no number, with or without a sign. -/
def readSpecial : Reader Value := fun s =>
  let (negative, r) := readSign s
  match r with
  | 'i' :: 'n' :: 'f' :: r => some (.float (.infinite negative), r)
  | 'n' :: 'a' :: 'n' :: r => some (.float .nan, r)
  | _ => none

end Number

end BuildDispatch.Toml
