/-!
Dates and times of a TOML document: the readers' ranges, and the canonical text.
-/

namespace BuildDispatch.Toml

/-- A calendar date. -/
structure Date where
  year : Nat
  month : Nat
  day : Nat
  deriving Repr, DecidableEq

/-- A time of day; second 60 is a leap second. -/
structure Time where
  hour : Nat
  minute : Nat
  second : Nat
  nanosecond : Nat
  deriving Repr, DecidableEq

/-- The distance of a clock from universal time. -/
inductive Offset where
  | utc
  | minutes (ahead : Int)
  deriving Repr, DecidableEq

/-- The four kinds of dates and times. -/
inductive DateTime where
  | localDate (date : Date)
  | localTime (time : Time)
  | localDateTime (date : Date) (time : Time)
  | offsetDateTime (date : Date) (time : Time) (offset : Offset)
  deriving Repr, DecidableEq

/-- A number with leading zeros up to a width. -/
def zeroPadded (width n : Nat) : List Char :=
  let digits := Nat.toDigits 10 n
  List.replicate (width - digits.length) '0' ++ digits

namespace Date

/-- Whether a year has a 29th of February. -/
def isLeap (year : Nat) : Bool := year % 4 == 0 && (year % 100 != 0 || year % 400 == 0)

/-- The number of days in a month. -/
def daysIn (year month : Nat) : Nat :=
  if month = 2 then (if isLeap year then 29 else 28)
  else if month = 4 || month = 6 || month = 9 || month = 11 then 30
  else 31

/-- A date of the calendar. -/
def isValid (d : Date) : Bool :=
  1 ≤ d.month && d.month ≤ 12 && 1 ≤ d.day && d.day ≤ daysIn d.year d.month

/-- The text of a date. -/
def chars (d : Date) : List Char :=
  zeroPadded 4 d.year ++ '-' :: zeroPadded 2 d.month ++ '-' :: zeroPadded 2 d.day

end Date

namespace Time

/-- A time of day. -/
def isValid (t : Time) : Bool := t.hour ≤ 23 && t.minute ≤ 59 && t.second ≤ 60

/-- A fraction of a second without its trailing zeros; nothing for a whole second. -/
def fractionChars (nanosecond : Nat) : List Char :=
  if nanosecond = 0 then []
  else '.' :: ((zeroPadded 9 nanosecond).reverse.dropWhile (· == '0')).reverse

/-- The text of a time of day. -/
def chars (t : Time) : List Char :=
  zeroPadded 2 t.hour ++ ':' :: zeroPadded 2 t.minute ++ ':' :: zeroPadded 2 t.second
    ++ fractionChars t.nanosecond

end Time

/-- The text of a distance: `Z`, or a sign, hours and minutes. -/
def Offset.chars : Offset → List Char
  | .utc => ['Z']
  | .minutes ahead =>
    (if ahead < 0 then '-' else '+')
      :: (zeroPadded 2 (ahead.natAbs / 60) ++ ':' :: zeroPadded 2 (ahead.natAbs % 60))

/-- The canonical text: a `T` between date and time, and no zeros at the end of a fraction. -/
def DateTime.text : DateTime → String
  | .localDate d => .ofList d.chars
  | .localTime t => .ofList t.chars
  | .localDateTime d t => .ofList (d.chars ++ 'T' :: t.chars)
  | .offsetDateTime d t o => .ofList (d.chars ++ 'T' :: t.chars ++ o.chars)

end BuildDispatch.Toml
