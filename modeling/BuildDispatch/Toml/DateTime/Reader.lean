import BuildDispatch.Decimal.Power
import BuildDispatch.Toml.Reader
import BuildDispatch.Toml.DateTime

/-!
Reading dates and times.  Seconds are required, fractions are cut off after nine digits, and only
dates of the calendar and times of a day are accepted.
-/

namespace BuildDispatch.Toml

/-- A number of exactly `count` decimal digits. -/
def fixedNumber (count : Nat) : Reader Nat := fun s =>
  (exactDigits Char.isDigit count s).map fun (digits, r) => (digitsValue 10 digits, r)

/-- A date, as `1979-05-27`. -/
def Date.read : Reader Date := fun s => do
  let (year, r) ← fixedNumber 4 s
  let r ← literally ['-'] r
  let (month, r) ← fixedNumber 2 r
  let r ← literally ['-'] r
  let (day, r) ← fixedNumber 2 r
  let d : Date := ⟨year, month, day⟩
  if d.isValid then some (d, r) else none

/-- A point and a fraction of a second in nanoseconds; further digits are cut off. -/
def Time.readFraction? : List Char → Option (Nat × List Char)
  | '.' :: r =>
    let digits := r.takeWhile Char.isDigit
    if digits.isEmpty then none
    else
      let nine := digits.take 9
      some (digitsValue 10 nine * Decimal.tenTo (9 - nine.length), r.dropWhile Char.isDigit)
  | _ => none

/-- A time of day, as `07:32:00.5`. -/
def Time.read : Reader Time := fun s => do
  let (hour, r) ← fixedNumber 2 s
  let r ← literally [':'] r
  let (minute, r) ← fixedNumber 2 r
  let r ← literally [':'] r
  let (second, r) ← fixedNumber 2 r
  let (nanosecond, r) := (Time.readFraction? r).getD (0, r)
  let t : Time := ⟨hour, minute, second, nanosecond⟩
  if t.isValid then some (t, r) else none

/-- The distance from universal time: `Z`, or a sign, hours and minutes. -/
def Offset.read : Reader Offset
  | 'Z' :: r => some (.utc, r)
  | 'z' :: r => some (.utc, r)
  | c :: r =>
    if c = '+' || c = '-' then do
      let (hour, r) ← fixedNumber 2 r
      let r ← literally [':'] r
      let (minute, r) ← fixedNumber 2 r
      if hour ≤ 23 && minute ≤ 59 then
        let ahead : Int := hour * 60 + minute
        some (.minutes (if c = '-' then -ahead else ahead), r)
      else none
    else none
  | [] => none

/-- A time behind a date, after `T` or one space. -/
def Time.readAfterDate? : List Char → Option (Time × List Char)
  | c :: r => if c = 'T' || c = 't' || c = ' ' then Time.read r else none
  | [] => none

/-- A date, a time, or both, the latter perhaps with an offset. -/
def DateTime.read : Reader DateTime := fun s =>
  match Date.read s with
  | some (d, r) =>
    match Time.readAfterDate? r with
    | some (t, r) =>
      match Offset.read r with
      | some (o, r) => some (.offsetDateTime d t o, r)
      | none => some (.localDateTime d t, r)
    | none => some (.localDate d, r)
  | none => (Time.read s).map fun (t, r) => (.localTime t, r)

end BuildDispatch.Toml
