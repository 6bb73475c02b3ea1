import BuildDispatch.Text.Terminal

/-!
Text whose parts stand out by colour or weight, and its two forms: with the control sequences that
make them stand out, and without.
-/

namespace BuildDispatch.Text

/-- How a part of a text stands out. -/
inductive Tone where
  | plain
  /-- The mark of an error. -/
  | failure
  | heading
  /-- What is to be typed as it stands. -/
  | literal
  /-- What would be right. -/
  | valid
  /-- What is wrong. -/
  | invalid
  deriving Repr, DecidableEq

/-- The control sequences in front of a part. -/
def Tone.opening : Tone → String
  | .plain => ""
  | .failure => "\x1b[1m\x1b[31m"
  | .heading => "\x1b[1m\x1b[4m"
  | .literal => "\x1b[1m"
  | .valid => "\x1b[32m"
  | .invalid => "\x1b[33m"

/-- The control sequence behind a part. -/
def Tone.closing : Tone → String
  | .plain => ""
  | _ => "\x1b[0m"

/-- A part of a text. -/
structure Span where
  tone : Tone
  text : String
  deriving Repr, DecidableEq

/-- A text in parts. -/
abbrev Styled := List Span

namespace Styled

/-- A text none of which stands out. -/
def plain (s : String) : Styled := [⟨.plain, s⟩]

/-- The text with its control sequences; the parts themselves are as they are. -/
def coloured (s : Styled) : String :=
  String.join (s.map fun part => part.tone.opening ++ part.text ++ part.tone.closing)

/-- The text as a terminal without colours shows it.  An escape sequence that a part leaves open
ends with it. -/
def shown (delivery : Terminal.Delivery) (s : Styled) : String :=
  String.join (s.map fun part => Terminal.shown delivery part.text)

end Styled

end BuildDispatch.Text
