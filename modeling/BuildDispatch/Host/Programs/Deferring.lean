import BuildDispatch.Host.Programs.Basic
import BuildDispatch.OsError

/-!
Programs that run a command under some condition which is always met here: that it ends in time,
that it gives way to others, or that it outlives its terminal.
-/

namespace BuildDispatch.Host.Programs

/-- What the words of such a program ask for. -/
inductive Deferral where
  /-- To run a command; a program of it that cannot be run is named behind these words, and shown in
  this way. -/
  | run (command : List Bytes) (failure : String) (shown : Bytes → Bytes)
  /-- Nothing; it ends with a status, an output and a complaint. -/
  | done (status : Nat) (stdout stderr : Bytes)

/-- The status of a program that was called in a wrong way. -/
def deferralFailure : Nat := 125

/-- Whether a word spells a length of time: a number, perhaps with a letter for its unit. -/
def isInterval (w : Bytes) : Bool :=
  let number := if (w.getLast?.map (Bytes.ofText "smhd").contains).getD false then w.dropLast else w
  let whole := number.takeWhile isDecimal
  let rest := number.drop whole.length
  let places := rest.tail
  if rest.isEmpty then !whole.isEmpty
  else rest.head? = some (ascii '.') && places.all isDecimal && !(whole ++ places).isEmpty

namespace Deferral

/-- A complaint about how a program was called. -/
def misused (called complaint : Bytes) : Deferral :=
  .done deferralFailure [] (misuse called complaint)

/-- A command that must end in time. -/
def inTime (_ : Bool) (called : Bytes) (args : List Bytes) : Deferral :=
  let names : OptionNames := ⟨"pfv", "ks", "", [("preserve-status", 'p'), ("foreground", 'f'),
    ("verbose", 'v'), ("kill-after", 'k'), ("signal", 's')]⟩
  match names.readFront (args.length + 1) args with
  | .error complaint => misused called complaint
  | .ok (_, time :: name :: words) =>
    if isInterval time then .run (name :: words) "failed to run command " inQuotes
    else misused called (.ofText "invalid time interval " ++ inQuotes time)
  | .ok _ => .done deferralFailure [] (hint called ++ .ofText "\n")

/-- A command that gives way to others. -/
def givingWay (_ : Bool) (called : Bytes) (args : List Bytes) : Deferral :=
  let isShort (w : Bytes) : Bool :=
    w.head? = some (ascii '-') && (w.drop 1).any isDecimal && (w.drop 1).all isDecimal
  let args := match args with
    | [] => []
    | w :: rest => (if isShort w then Bytes.ofText "-n" ++ w.tail else w) :: rest
  let names : OptionNames := ⟨"", "n", "", [("adjustment", 'n')]⟩
  match names.readFront (args.length + 1) args with
  | .error complaint => misused called complaint
  | .ok (o, words) =>
    match (o.values 'n').find? fun w => (integer? w).isNone, words with
    | some w, _ =>
      .done deferralFailure [] (complaintOf called (.ofText "invalid adjustment " ++ inQuotes w))
    | none, [] =>
      if o.has 'n' then misused called (.ofText "a command must be given with an adjustment")
      else .done 0 (line "0") []
    | none, words => .run words "" inQuotes

/-- A command that outlives its terminal.  The standard has another status for misuse. -/
def outliving (isStandard : Bool) (called : Bytes) (args : List Bytes) : Deferral :=
  let names : OptionNames := ⟨"", "", "", []⟩
  let misused (complaint : Bytes) : Deferral :=
    .done (if isStandard then 127 else deferralFailure) [] (misuse called complaint)
  match names.readFront (args.length + 1) args with
  | .error complaint => misused complaint
  | .ok (_, []) => misused (.ofText "missing operand")
  | .ok (_, words) => .run words "failed to run command " inShellQuotes

end Deferral

/-- What the words of a program ask for, if it runs a command under a condition. -/
def deferralOf? (name : Bytes) :
    Option ((isStandard : Bool) → (called : Bytes) → List Bytes → Deferral) :=
  if name = Bytes.ofText "timeout" then some Deferral.inTime
  else if name = Bytes.ofText "nice" then some Deferral.givingWay
  else if name = Bytes.ofText "nohup" then some Deferral.outliving
  else none

end BuildDispatch.Host.Programs
