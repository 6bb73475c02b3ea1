/-!
Wait statuses: the 32-bit word by which a process is reported to its parent.  `ending` reads it,
`text` words it, and only the word zero is success.
-/

namespace BuildDispatch

/-- The raw word. -/
structure WaitStatus where
  raw : UInt32
  deriving Repr, DecidableEq

namespace WaitStatus

/-- How a process ended, or what else its status reports. -/
inductive Ending where
  | exited (code : Nat)
  | signalled (signal : Nat) (coreDumped : Bool)
  | stopped (signal : Nat)
  | continued
  | unrecognised (raw : UInt32)
  deriving Repr, DecidableEq

/-- The status of a process that exits by itself with a code from 0 to 255. -/
def ofExitCode (code : Nat) : WaitStatus := ⟨.ofNat (code % 256 * 256)⟩

/-- The status of a process that a signal ends. -/
def ofSignal (signal : Nat) : WaitStatus := ⟨.ofNat (signal % 128)⟩

/-- The low seven bits tell an exit (0) and an ending signal (1 to 126) apart from the rest; a low
byte of 127 is a stop, and the word 65535 a continuation. -/
def ending (s : WaitStatus) : Ending :=
  let n := s.raw.toNat
  let low := n % 128
  let second := n / 256 % 256
  if low = 0 then .exited second
  else if low < 127 then .signalled low (n / 128 % 2 == 1)
  else if n % 256 = 127 then .stopped second
  else if n = 65535 then .continued
  else .unrecognised s.raw

/-- Only the word zero is success. -/
def isSuccess (s : WaitStatus) : Bool := s.raw == 0

/-- Names of the signals from 1 on. -/
def signalNames : List String := [
  "SIGHUP", "SIGINT", "SIGQUIT", "SIGILL", "SIGTRAP", "SIGABRT", "SIGBUS", "SIGFPE", "SIGKILL",
  "SIGUSR1", "SIGSEGV", "SIGUSR2", "SIGPIPE", "SIGALRM", "SIGTERM", "SIGSTKFLT", "SIGCHLD",
  "SIGCONT", "SIGSTOP", "SIGTSTP", "SIGTTIN", "SIGTTOU", "SIGURG", "SIGXCPU", "SIGXFSZ",
  "SIGVTALRM", "SIGPROF", "SIGWINCH", "SIGIO", "SIGPWR", "SIGSYS"]

/-- The name of a signal, if it has one. -/
def signalName? (signal : Nat) : Option String :=
  if signal = 0 then none else signalNames[signal - 1]?

/-- A signal by its number, and its name in brackets. -/
def signalText (signal : Nat) : String :=
  match signalName? signal with
  | some name => toString signal ++ " (" ++ name ++ ")"
  | none => toString signal

/-- The word read as a signed number. -/
def signed (raw : UInt32) : Int := raw.toBitVec.toInt

/-- The wording of a status. -/
def Ending.text : Ending → String
  | .exited code => "exit status: " ++ toString code
  | .signalled signal coreDumped =>
    "signal: " ++ signalText signal ++ (if coreDumped then " (core dumped)" else "")
  | .stopped signal => "stopped (not terminated) by signal: " ++ signalText signal
  | .continued => "continued (WIFCONTINUED)"
  | .unrecognised raw =>
    "unrecognised wait status: " ++ toString (signed raw) ++ " 0x"
      ++ String.ofList (Nat.toDigits 16 raw.toNat)

/-- The wording of a wait status. -/
def text (s : WaitStatus) : String := s.ending.text

end WaitStatus

end BuildDispatch
