/-!
Errors of the operating system, by cause, and their wording.
-/

namespace BuildDispatch

/-- Why the operating system refused a request. -/
inductive OsError where
  | notFound
  | permissionDenied
  | notADirectory
  | isADirectory
  | nameTooLong
  /-- A descriptor leads nowhere, or elsewhere than is asked for. -/
  | badDescriptor
  | noSpace
  /-- A process is to be given a longer text than it can be. -/
  | argumentsTooLong
  /-- A file that should hold text does not. -/
  | notText
  /-- A word for a new process contains a NUL byte. -/
  | nulByte
  deriving Repr, DecidableEq

namespace OsError

/-- The reason alone. -/
def reason : OsError → String
  | .notFound => "No such file or directory"
  | .permissionDenied => "Permission denied"
  | .notADirectory => "Not a directory"
  | .isADirectory => "Is a directory"
  | .nameTooLong => "File name too long"
  | .badDescriptor => "Bad file descriptor"
  | .noSpace => "No space left on device"
  | .argumentsTooLong => "Argument list too long"
  | .notText => "stream did not contain valid UTF-8"
  | .nulByte => "nul byte found in provided data"

/-- The number of an error that the system itself reports. -/
def number? : OsError → Option Nat
  | .notFound => some 2
  | .argumentsTooLong => some 7
  | .badDescriptor => some 9
  | .permissionDenied => some 13
  | .notADirectory => some 20
  | .isADirectory => some 21
  | .noSpace => some 28
  | .nameTooLong => some 36
  | .notText | .nulByte => none

/-- The reason, with the number of the error if it has one. -/
def message (e : OsError) : String :=
  match e.number? with
  | some n => e.reason ++ " (os error " ++ toString n ++ ")"
  | none => e.reason

end OsError

end BuildDispatch
