import BuildDispatch.Decimal.Rounded

/-!
Arithmetic on binary floating point numbers.  A result of sums, products, quotients, remainders and
whole powers is the exact one, rounded once.
-/

namespace BuildDispatch.Decimal.Binary64

/-- The value nearest to `n * 2 ^ e`; a zero has the given sign. -/
def ofScaled (zeroIsNegative : Bool) (n : Int) (e : Int) : Binary64 :=
  if n = 0 then .finite zeroIsNegative 0 leastExponent
  else ofFraction (n < 0) (n.natAbs * twoTo e.toNat) (twoTo (-e).toNat)

/-- A whole number. -/
def ofInt (n : Int) : Binary64 := ofScaled false n 0

/-- The value zero. -/
def zero : Binary64 := .finite false 0 leastExponent

/-- The value one. -/
def one : Binary64 := ofInt 1

/-- Whether a value is zero. -/
def isZero : Binary64 → Bool
  | .finite _ m _ => m = 0
  | _ => false

/-- Whether a value has a minus sign. -/
def isNegative : Binary64 → Bool
  | .finite s _ _ | .infinite s => s
  | .nan => false

/-- The value with the other sign. -/
def negated : Binary64 → Binary64
  | .finite s m e => .finite (!s) m e
  | .infinite s => .infinite (!s)
  | .nan => .nan

/-- A significand with its sign. -/
def signed (negative : Bool) (m : Nat) : Int := if negative then -(m : Int) else m

/-- The sum of two values. -/
def plus : Binary64 → Binary64 → Binary64
  | .nan, _ | _, .nan => .nan
  | .infinite s, .infinite t => if s = t then .infinite s else .nan
  | .infinite s, _ | _, .infinite s => .infinite s
  | .finite s m e, .finite t n f =>
    let least := min e f
    let a := signed s m * twoTo (e - least).toNat
    let b := signed t n * twoTo (f - least).toNat
    ofScaled (s && t) (a + b) least

/-- The difference of two values. -/
def minus (a b : Binary64) : Binary64 := a.plus b.negated

/-- The product of two values. -/
def times : Binary64 → Binary64 → Binary64
  | .nan, _ | _, .nan => .nan
  | .finite s m e, .finite t n f => ofScaled (s != t) (signed (s != t) (m * n)) (e + f)
  | a, b => if a.isZero || b.isZero then .nan else .infinite (a.isNegative != b.isNegative)

/-- The quotient of two values. -/
def quotient : Binary64 → Binary64 → Binary64
  | .nan, _ | _, .nan | .infinite _, .infinite _ => .nan
  | .infinite s, b => .infinite (s != b.isNegative)
  | a, .infinite t => .finite (a.isNegative != t) 0 leastExponent
  | .finite s m e, .finite t n f =>
    let sign := s != t
    if n = 0 then if m = 0 then .nan else .infinite sign
    else if m = 0 then .finite sign 0 leastExponent
    else ofFraction sign (m * twoTo (e - f).toNat) (n * twoTo (f - e).toNat)

/-- What is left of a value when another is taken from it as often as possible; it has the sign of
the first one. -/
def remainder : Binary64 → Binary64 → Binary64
  | .nan, _ | _, .nan | .infinite _, _ => .nan
  | a, .infinite _ => a
  | .finite s m e, .finite _ n f =>
    let least := min e f
    let a := m * twoTo (e - least).toNat
    let b := n * twoTo (f - least).toNat
    if b = 0 then .nan else ofScaled s (signed s (a % b)) least

/-- The order of two values, if they have one. -/
def compare? : Binary64 → Binary64 → Option Ordering
  | .nan, _ | _, .nan => none
  | .infinite s, .infinite t => some (compare t s)
  | .infinite s, _ => some (if s then .lt else .gt)
  | _, .infinite t => some (if t then .gt else .lt)
  | .finite s m e, .finite t n f =>
    let least := min e f
    some (compare (signed s m * twoTo (e - least).toNat) (signed t n * twoTo (f - least).toNat))

/-- A value without its places, if it has an end. -/
def truncated? : Binary64 → Option Int
  | .finite s m e => some (signed s (m * twoTo e.toNat / twoTo (-e).toNat))
  | _ => none

/-- The whole number that a value is. -/
def toInt? (a : Binary64) : Option Int :=
  (truncated? a).filter fun n => (ofInt n).compare? a = some .eq

/-- The sixty-four bits of a value: its sign, eleven for the exponent, and the significand. -/
def bits : Binary64 → UInt64
  | .finite s m e =>
    let sign : Nat := if s then twoTo 63 else 0
    let rest :=
      if m < twoTo 52 then m else (e - leastExponent + 1).toNat * twoTo 52 + (m - twoTo 52)
    .ofNat (sign + rest)
  | .infinite s => .ofNat ((if s then twoTo 63 else 0) + 2047 * twoTo 52)
  | .nan => .ofNat (2047 * twoTo 52 + twoTo 51)

/-- The value of sixty-four bits. -/
def ofBits (b : UInt64) : Binary64 :=
  let n := b.toNat
  let s := twoTo 63 ≤ n
  let field := n / twoTo 52 % 2048
  let m := n % twoTo 52
  if field = 2047 then if m = 0 then .infinite s else .nan
  else if field = 0 then .finite s m leastExponent
  else .finite s (m + twoTo 52) (leastExponent + field - 1)

/-- A function of the machine on values. -/
def viaMachine (f : Float → Float) (a : Binary64) : Binary64 :=
  ofBits (f (Float.ofBits a.bits)).toBits

/-- A function of the machine on two values. -/
def viaMachine₂ (f : Float → Float → Float) (a b : Binary64) : Binary64 :=
  ofBits (f (Float.ofBits a.bits) (Float.ofBits b.bits)).toBits

/-- A power of a value.  Whole powers of moderate size are exact but for one rounding. -/
def power (a b : Binary64) : Binary64 :=
  match a, b.toInt? with
  | .finite s m e, some n =>
    if n.natAbs ≤ 1100 && m != 0 then
      let k := n.natAbs
      let sign := s && k % 2 = 1
      let whole := ofScaled sign (signed sign (Nat.pow m k)) (e * k)
      if n < 0 then
        let size := e * k
        ofFraction sign (twoTo (-size).toNat) (Nat.pow m k * twoTo size.toNat)
      else whole
    else viaMachine₂ Float.pow a b
  | _, _ => viaMachine₂ Float.pow a b

end BuildDispatch.Decimal.Binary64
