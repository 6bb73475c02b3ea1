import BuildDispatch.Host.Pattern

/-!
From an expanded word to the words of a command: what expansions brought in is split, and what was
quoted is kept together.
-/

namespace BuildDispatch.Host

/-- Where a byte of an expanded word comes from. -/
inductive Origin where
  /-- From between quotes. -/
  | quoted
  /-- From the script as it is written. -/
  | plain
  /-- From an expansion without quotes. -/
  | result
  deriving Repr, DecidableEq

/-- An expanded word, bit by bit. -/
inductive Grain where
  | byte (b : UInt8) (origin : Origin)
  /-- A quoted part begins here, so there is a word even if it is empty. -/
  | mark
  /-- One argument ends here, and another one begins. -/
  | gap
  /-- The value of an expansion begins here, which can be split; if it consists of quoted arguments,
  it is split between them and nowhere else. -/
  | value (ofArguments : Bool)
  deriving Repr, DecidableEq

namespace Grain

/-- Bytes of one origin. -/
def ofBytes (origin : Origin) (b : Bytes) : List Grain := b.map fun x => .byte x origin

/-- The bytes alone. -/
def text (l : List Grain) : Bytes :=
  l.filterMap fun
    | .byte b _ => some b
    | _ => none

/-- The bytes as a pattern, in which quoted ones stand for themselves. -/
def pattern (l : List Grain) : Pattern :=
  l.filterMap fun
    | .byte b origin => some (b, origin = .quoted)
    | _ => none

/-- What takes the place of a value: the parts without quotes can be split too. -/
def asResult : (within : Bool) → List Grain → List Grain
  | _, [] => []
  | true, .byte b .plain :: l => .byte b .result :: asResult true l
  | false, .byte b .plain :: l => .value false :: .byte b .result :: asResult true l
  | _, g :: l => g :: asResult false l

/-- What takes the place of a value between quotes. -/
def asQuoted (l : List Grain) : List Grain :=
  l.map fun
    | .byte b _ => .byte b .quoted
    | g => g

end Grain

/-- Words under construction. -/
structure Fields where
  finished : List Pattern
  /-- The last word, if it has begun. -/
  last : Option Pattern
  /-- Whether white space in the present value has just ended a word. -/
  spaced : Bool
  /-- Whether the last value consists of quoted arguments. -/
  ofArguments : Bool

namespace Fields

/-- Finishes the last word. -/
def close (f : Fields) : Fields :=
  { f with finished := f.finished ++ f.last.toList, last := none, spaced := false }

/-- Begins a word if none has begun. -/
def begin (f : Fields) : Fields := { f with last := some (f.last.getD []), spaced := false }

/-- Extends the last word, which begins with this if need be. -/
def extend (f : Fields) (x : UInt8 × Bool) : Fields :=
  { f with last := some (f.last.getD [] ++ [x]), spaced := false }

/-- White space among the separators. -/
def isSpace (b : UInt8) : Bool := b = 0x20 || b = 0x09 || b = 0x0A

/-- Takes in white space that parts words. -/
def part (f : Fields) : Fields :=
  if f.last.isSome then { f.close with spaced := true } else f

/-- Takes in a byte of an expansion.  White space only parts words; any other separator ends a word,
which is empty if none has begun. -/
def split (separators : Bytes) (f : Fields) (b : UInt8) : Fields :=
  if !separators.contains b then f.extend (b, false)
  else if isSpace b then f.part
  else if f.spaced then { f with spaced := false }
  else f.begin.close

/-- Takes in a bit of an expanded word. -/
def take (separators : Bytes) (f : Fields) : Grain → Fields
  | .byte b .result => f.split separators b
  | .byte b origin => f.extend (b, origin = .quoted)
  | .mark => f.begin
  | .gap => if f.ofArguments then f.begin.close else f.part
  | .value ofArguments => { f with spaced := false, ofArguments }

/-- The words that an expanded word makes, each as a pattern for names of files.  Behind the last
of quoted arguments there is a word even if it is empty. -/
def ofGrains (separators : Bytes) (l : List Grain) : List Pattern :=
  let f := l.foldl (take separators) ⟨[], none, false, false⟩
  (if f.ofArguments then f.begin else f).close.finished

end Fields

end BuildDispatch.Host
