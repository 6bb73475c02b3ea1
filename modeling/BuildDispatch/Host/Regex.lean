import BuildDispatch.Host.Escapes

/-!
Regular expressions over bytes, and where they match in a line: at the first place possible, and
there as long as possible.
-/

namespace BuildDispatch.Host

/-- What may stand at a place between two bytes. -/
inductive Regex.Edge where
  | lineStart
  | lineEnd
  /-- The start of a row of a text that has several. -/
  | rowStart
  | rowEnd
  | wordStart
  | wordEnd
  | wordEdge
  | noWordEdge
  deriving Repr, DecidableEq

/-- A regular expression. -/
inductive Regex where
  | empty
  /-- One byte of a set. -/
  | one (holds : UInt8 → Bool)
  | edge (e : Regex.Edge)
  | sequence (first second : Regex)
  | either (first second : Regex)
  | repeated (r : Regex) (least : Nat) (most : Option Nat)
  | group (number : Nat) (r : Regex)
  /-- The text that a group has matched. -/
  | again (number : Nat)

namespace Regex

/-- A place in a line: the byte before it, what follows, and the texts of the groups so far. -/
structure Place where
  before : Option UInt8
  rest : Bytes
  groups : List (Nat × Bytes)

/-- The bytes of words. -/
def isWord (b : UInt8) : Bool := (Char.ofNat b.toNat).isAlphanum || b = ascii '_'

/-- Whether a place is an edge of a kind. -/
def Edge.holds (e : Edge) (p : Place) : Bool :=
  let left := p.before.any isWord
  let right := p.rest.head?.any isWord
  match e with
  | .lineStart => p.before.isNone
  | .lineEnd => p.rest.isEmpty
  | .rowStart => p.before.all (· = ascii '\n')
  | .rowEnd => p.rest.head?.all (· = ascii '\n')
  | .wordStart => !left && right
  | .wordEnd => left && !right
  | .wordEdge => left != right
  | .noWordEdge => left == right

/-- The place behind so many bytes. -/
def Place.skip (p : Place) (n : Nat) : Place :=
  { p with before := ((p.rest.take n).getLast?).or p.before, rest := p.rest.drop n }

/-- Repeats a step, more often before less often; steps that are not needed must move on. -/
def repeats (step : Place → List Place) : (fuel least : Nat) → (most : Option Nat) → Place →
    List Place
  | 0, _, _, p => [p]
  | fuel + 1, least, most, p =>
    if most = some 0 then [p]
    else
      let moved := (step p).filter fun q => least != 0 || q.rest.length < p.rest.length
      let further := moved.flatMap (repeats step fuel (least - 1) (most.map (· - 1)))
      if least = 0 then further ++ [p] else further

/-- The places to which an expression leads from a place, the preferred ones first. -/
def ends : Regex → Place → List Place
  | .empty, p => [p]
  | .one holds, p =>
    match p.rest with
    | [] => []
    | b :: r => if holds b then [{ p with before := some b, rest := r }] else []
  | .edge e, p => if e.holds p then [p] else []
  | .sequence first second, p => (ends first p).flatMap (ends second)
  | .either first second, p => ends first p ++ ends second p
  | .repeated r least most, p => repeats (ends r) (p.rest.length + least + 1) least most p
  | .group number r, p =>
    (ends r p).map fun q =>
      let text := p.rest.take (p.rest.length - q.rest.length)
      { q with groups := (number, text) :: q.groups.filter (·.1 != number) }
  | .again number, p =>
    match p.groups.lookup number with
    | some text => if text.isPrefixOf p.rest then [p.skip text.length] else []
    | none => []

/-- A match in a line. -/
structure Match where
  /-- What goes before it. -/
  front : Bytes
  text : Bytes
  groups : List (Nat × Bytes)
  /-- What goes behind it. -/
  rest : Bytes

/-- Where the longest match from a place ends, of equal ones the preferred one, among those whose
ends are accepted. -/
def matchAt? (r : Regex) (accepted : Place → Bool) (p : Place) : Option Place :=
  ((ends r p).filter accepted).foldl (fun best q =>
    match best with
    | some b => if q.rest.length < b.rest.length then some q else best
    | none => some q) none

/-- The first match from a place on that is accepted. -/
def find? (r : Regex) (accepted : (start behind : Place) → Bool) : (front : Bytes) → Place →
    Option Match
  | front, ⟨before, [], groups⟩ =>
    let p : Place := ⟨before, [], groups⟩
    (r.matchAt? (accepted p) p).map fun q => ⟨front, [], q.groups, []⟩
  | front, ⟨before, b :: rest, groups⟩ =>
    let p : Place := ⟨before, b :: rest, groups⟩
    match r.matchAt? (accepted p) p with
    | some q => some ⟨front, p.rest.take (p.rest.length - q.rest.length), q.groups, q.rest⟩
    | none => find? r accepted (front ++ [b]) ⟨some b, rest, []⟩
termination_by _ p => p.rest.length

/-- The first match in a line. -/
def match? (r : Regex) (line : Bytes) : Option Match :=
  r.find? (fun _ _ => true) [] ⟨none, line, []⟩

/-- An expression that stands for a text. -/
def ofText (same : UInt8 → UInt8 → Bool) (text : Bytes) : Regex :=
  text.foldr (fun b r => .sequence (.one (same b)) r) .empty

end Regex

end BuildDispatch.Host
