import BuildDispatch.Host.Escapes

/-!
Patterns for texts: `*` stands for any text, `?` for any byte, and brackets for one byte of a set.
-/

namespace BuildDispatch.Host

/-- A pattern: bytes, each with a mark that it stands for itself. -/
abbrev Pattern := List (UInt8 × Bool)

namespace Pattern

/-- The classes of bytes that brackets may name. -/
def inClass (name : Bytes) (b : UInt8) : Bool :=
  let c := Char.ofNat b.toNat
  if name = .ofText "alpha" then c.isAlpha
  else if name = .ofText "digit" then c.isDigit
  else if name = .ofText "alnum" then c.isAlphanum
  else if name = .ofText "upper" then c.isUpper
  else if name = .ofText "lower" then c.isLower
  else if name = .ofText "xdigit" then (hexValue? b).isSome
  else if name = .ofText "space" then b = 0x20 || (0x09 ≤ b && b ≤ 0x0D)
  else if name = .ofText "blank" then b = 0x20 || b = 0x09
  else if name = .ofText "punct" then 0x21 ≤ b && b < 0x7F && !c.isAlphanum
  else false

/-- Whether an element of a pattern is this character with its meaning. -/
def isMark (c : Char) (x : UInt8 × Bool) : Bool := x.1 = ascii c && !x.2

/-- The sets of bytes up to the closing bracket, and how many elements they take, bracket included.
A closing bracket that comes first stands for itself. -/
def sets? : (fuel : Nat) → (first : Bool) → Pattern → Option (List (UInt8 → Bool) × Nat)
  | 0, _, _ => none
  | _, _, [] => none
  | fuel + 1, first, x :: r =>
    if isMark ']' x && !first then some ([], 1)
    else if isMark '[' x && (r.head?.map (isMark ':')).getD false then
      let name := (r.drop 1).takeWhile fun y => y.1 != ascii ':'
      match sets? fuel false (r.drop (name.length + 3)) with
      | some (more, n) => some (inClass (name.map (·.1)) :: more, n + name.length + 4)
      | none => none
    else
      match r with
      | dash :: y :: r' =>
        if isMark '-' dash && !isMark ']' y then
          match sets? fuel false r' with
          | some (more, n) => some ((fun b => x.1 ≤ b && b ≤ y.1) :: more, n + 3)
          | none => none
        else
          match sets? fuel false (dash :: y :: r') with
          | some (more, n) => some ((· == x.1) :: more, n + 1)
          | none => none
      | r =>
        match sets? fuel false r with
        | some (more, n) => some ((· == x.1) :: more, n + 1)
        | none => none

/-- The set of bytes that brackets stand for, given what follows the opening one, and how many
elements it takes. -/
def set? (p : Pattern) : Option ((UInt8 → Bool) × Nat) :=
  let negated := (p.head?.map (isMark '!')).getD false
  match sets? (p.length + 1) true (if negated then p.tail else p) with
  | some (sets, n) =>
    some (fun b => (sets.any fun s => s b) != negated, if negated then n + 1 else n)
  | none => none

/-- Whether a pattern stands for a text. -/
def accepts : Pattern → Bytes → Bool
  | [], s => s.isEmpty
  | x :: p, s =>
    if isMark '*' x then
      accepts p s || match s with
        | [] => false
        | _ :: r => accepts (x :: p) r
    else
      match s with
      | [] => false
      | b :: r =>
        if isMark '?' x then accepts p r
        else if isMark '[' x then
          match set? p with
          | some (holds, n) => holds b && accepts (p.drop n) r
          | none => b == x.1 && accepts p r
        else b == x.1 && accepts p r
termination_by p s => p.length + s.length
decreasing_by all_goals simp_wf; try omega

/-- Whether anything in a pattern stands for more than itself. -/
def isProper (p : Pattern) : Bool := p.any fun x => isMark '*' x || isMark '?' x || isMark '[' x

/-- The bytes of a pattern as plain text. -/
def plain (p : Pattern) : Bytes := p.map (·.1)

end Pattern

end BuildDispatch.Host
