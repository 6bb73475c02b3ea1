import BuildDispatch.Decimal.Binary64

/-!
The decimal text of a floating point number: the fewest digits that read back as the same number,
and of those the nearest, written positionally without an exponent.
-/

namespace BuildDispatch.Decimal

namespace Binary64

/-- The open or closed interval of reals that round to `m * 2 ^ e`, and the value itself, all as
numerators over one denominator. -/
structure Neighbourhood where
  low : Nat
  value : Nat
  high : Nat
  denominator : Nat
  closed : Bool

/-- The reals nearer to `m * 2 ^ e` than to any other value; the ends belong to it when `m` is even.
Below a power of two the spacing halves. -/
def neighbourhood (m : Nat) (e : Int) : Neighbourhood :=
  let scale := twoTo e.toNat
  let below := if m = twoTo 52 && leastExponent < e then 1 else 2
  { low := (4 * m - below) * scale
    value := 4 * m * scale
    high := (4 * m + 2) * scale
    denominator := 4 * twoTo (-e).toNat
    closed := m % 2 == 0 }

/-- Whether `digits * 10 ^ power` lies in the neighbourhood. -/
def Neighbourhood.has (n : Neighbourhood) (digits : Nat) (power : Int) : Bool :=
  let x := digits * tenTo power.toNat * n.denominator
  let unit := tenTo (-power).toNat
  if n.closed then n.low * unit ≤ x && x ≤ n.high * unit
  else n.low * unit < x && x < n.high * unit

/-- The multiple of `10 ^ power` in the neighbourhood that is nearest to the value, by its number of
units; on a tie the upper of its two neighbours. -/
def Neighbourhood.nearest? (n : Neighbourhood) (power : Int) : Option Nat :=
  let num := n.value * tenTo (-power).toNat
  let den := n.denominator * tenTo power.toNat
  let floor := num / den
  let floorIsNearer := 2 * (num % den) < den
  match n.has floor power, n.has (floor + 1) power with
  | true, true => some (if floorIsNearer then floor else floor + 1)
  | true, false => some floor
  | false, true => some (floor + 1)
  | false, false => none

/-- The least power of ten above `num / den`, for a positive fraction. -/
def magnitude (num den : Nat) : Int :=
  let guess : Int := ((Nat.toDigits 10 num).length : Int) - ((Nat.toDigits 10 den).length : Int)
  if num * tenTo (-guess).toNat < den * tenTo guess.toNat then guess else guess + 1

/-- Tries coarser grids first: from `count` digits on, `more` grids at most.  The power of ten above
the value has one digit, whichever grid finds it. -/
def searchDigits (n : Neighbourhood) (top : Int) : (more count : Nat) → Nat × Int
  | 0, count => (n.value / n.denominator, top - count)
  | more + 1, count =>
    match n.nearest? (top - count) with
    | some digits => if digits = tenTo count then (1, top) else (digits, top - count)
    | none => searchDigits n top more (count + 1)

/-- The fewest digits that read back as `m * 2 ^ e`, with the power of ten of the last one. -/
def shortest (m : Nat) (e : Int) : Nat × Int :=
  let n := neighbourhood m e
  searchDigits n (magnitude n.value n.denominator) 17 1

/-- `digits * 10 ^ power` written positionally, always with a point. -/
def positional (digits : List Char) (power : Int) : List Char :=
  if 0 ≤ power then digits ++ List.replicate power.toNat '0' ++ ['.', '0']
  else
    let places := (-power).toNat
    let padded := List.replicate (places + 1 - digits.length) '0' ++ digits
    padded.take (padded.length - places) ++ '.' :: padded.drop (padded.length - places)

/-- The text of a value. -/
def text : Binary64 → String
  | .nan => "NaN"
  | .infinite negative => if negative then "-inf" else "inf"
  | .finite negative m e =>
    let body :=
      if m = 0 then ['0', '.', '0']
      else
        let (digits, power) := shortest m e
        positional (Nat.toDigits 10 digits) power
    String.ofList (if negative then '-' :: body else body)

end Binary64

end BuildDispatch.Decimal
