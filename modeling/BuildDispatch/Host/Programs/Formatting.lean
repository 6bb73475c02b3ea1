import BuildDispatch.Host.Format
import BuildDispatch.Host.Programs.Basic

/-!
A program that prints its words in a format.
-/

namespace BuildDispatch.Host.Programs

/-- What the program says against a word that is to be a number. -/
def flawText (w : Bytes) : Format.Flaw → Bytes
  | .notNumeric => inQuotes w ++ .ofText ": expected a numeric value"
  | .leftover => inQuotes w ++ .ofText ": value not completely converted"
  | .outOfRange => inQuotes w ++ .ofText ": Numerical result out of range"
  | .behindByte =>
    .ofText "warning: " ++ w
      ++ .ofText ": character(s) following character constant have been ignored"

/-- Why the program ended early. -/
def haltText : Format.Halt → Bytes
  | .missingDirective => .ofText "%: invalid conversion specification"
  | .invalidDirective written => written ++ .ofText ": invalid conversion specification"
  | .missingHexadecimal => .ofText "missing hexadecimal number in escape"
  | .tooLong => .ofText "write error"
  | .invalidLength ofPlaces word =>
    .ofText (if ofPlaces then "invalid precision: " else "invalid field width: ") ++ inQuotes word

/-- Prints its words in a format. -/
def formatWords (g : Given) : Effect :=
  let args := if g.args.head? = some (Bytes.ofText "--") then g.args.tail else g.args
  match args with
  | [] => g.misused 1 (.ofText "missing operand")
  | format :: words =>
    let (s, halt) := Format.print Format.ofProgram format words
    let isEmptyWord (c : Bytes × Format.Flaw) : Bool := c.1.isEmpty
    let isSaid (c : Bytes × Format.Flaw) : Bool :=
      !isEmptyWord c && !(g.isStandard && c.2 = .behindByte)
    let complaints := (s.complaints.filter isSaid).flatMap fun (w, flaw) =>
      complaintOf g.called (flawText w flaw)
    let isFault (c : Bytes × Format.Flaw) : Bool := !isEmptyWord c && c.2 != .behindByte
    let excess : Bytes := match halt, s.words with
      | none, w :: _ =>
        if s.ended then []
        else complaintOf g.called
          (.ofText "warning: ignoring excess arguments, starting with " ++ inQuotes w)
      | _, _ => []
    match halt with
    | some halt => g.done 1 s.out (complaints ++ complaintOf g.called (haltText halt))
    | none =>
      g.done (if !s.ended && s.complaints.any isFault then 1 else 0) s.out (complaints ++ excess)

end BuildDispatch.Host.Programs
