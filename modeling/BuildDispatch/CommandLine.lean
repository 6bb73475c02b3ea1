import BuildDispatch.Bytes.Utf8
import BuildDispatch.Preset

/-!
The command line: options, then an action, then arguments that are handed on untouched.  Options end
at the first word that does not look like one, or after `--`.  Each option may be given once.
-/

namespace BuildDispatch

namespace CommandLine

/-- The options of the program. -/
inductive Opt where
  | verbose
  | dryRun
  | preset
  deriving Repr, DecidableEq

/-- An option with its value, as messages show it. -/
def Opt.shown : Opt → String
  | .verbose => "--verbose"
  | .dryRun => "--dry-run"
  | .preset => "--preset <PRESET>"

/-- The two lengths of the help text. -/
inductive HelpForm where
  | short
  | long
  deriving Repr, DecidableEq

/-- Why a command line is not run. -/
inductive Refusal where
  /-- Help was asked for. -/
  | help (form : HelpForm)
  /-- There is nothing on the command line. -/
  | nothingGiven
  /-- There are options, but no action. -/
  | noAction
  | unknownOption (shown : String)
  | repeated (option : Opt)
  | unwantedValue (value : String) (option : String)
  | missingPreset
  | badPreset (value : String)
  /-- The action is not text. -/
  | actionNotText
  deriving Repr, DecidableEq

/-- An accepted command line. -/
structure Invocation where
  verbose : Bool
  dryRun : Bool
  preset : Option Preset
  /-- The action and everything after it. -/
  action : Bytes
  trailing : List Bytes
  deriving Repr, DecidableEq

/-- The options seen so far. -/
structure Options where
  verbose : Bool
  dryRun : Bool
  preset : Option Preset
  deriving Repr, DecidableEq

/-- No options. -/
def Options.initial : Options := ⟨false, false, none⟩

/-- A preset option whose value, the next word, has yet to be looked at. -/
inductive Pending where
  | nothing
  /-- The option has been read and its value has not. -/
  | awaited
  /-- The value has been read and not yet judged. -/
  | value (word : Bytes)
  deriving Repr, DecidableEq

namespace Options

/-- Takes in a preset by its name. -/
def givePreset (o : Options) (word : Bytes) : Except Refusal Options :=
  if o.preset.isSome then .error (.repeated .preset)
  else if word.isEmpty then .error .missingPreset
  else
    match word.text?.bind Preset.named? with
    | some p => .ok { o with preset := some p }
    | none => .error (.badPreset word.lossyText)

/-- Judges a pending value. -/
def settle (o : Options) : Pending → Except Refusal Options
  | .nothing => .ok o
  | .awaited => .error .missingPreset
  | .value word => o.givePreset word

/-- Takes in the option for a verbose run. -/
def giveVerbose (o : Options) : Except Refusal Options :=
  if o.verbose then .error (.repeated .verbose) else .ok { o with verbose := true }

/-- Takes in the option for a dry run. -/
def giveDryRun (o : Options) : Except Refusal Options :=
  if o.dryRun then .error (.repeated .dryRun) else .ok { o with dryRun := true }

end Options

/-- The names of the long options. -/
inductive LongName where
  | verbose
  | dryRun
  | preset
  | help
  deriving Repr, DecidableEq

/-- How a long name is spelled. -/
def LongName.name : LongName → String
  | .verbose => "verbose"
  | .dryRun => "dry-run"
  | .preset => "preset"
  | .help => "help"

/-- All long names. -/
def LongName.all : List LongName := [.verbose, .dryRun, .preset, .help]

/-- The option of a long name. -/
def LongName.ofBytes? (name : Bytes) : Option LongName :=
  LongName.all.find? fun n => name = .ofText n.name

/-- A word that begins with a dash. -/
inductive Dashed where
  /-- Two dashes and nothing else. -/
  | separator
  /-- Two dashes, a name, and perhaps an equals sign and a value. -/
  | long (name : Bytes) (value : Option Bytes)
  /-- One dash and a cluster of letters. -/
  | cluster (letters : Bytes)
  deriving Repr, DecidableEq

/-- The byte that options begin with. -/
def dash : UInt8 := 0x2D

/-- The byte between the name of an option and an attached value. -/
def equalsSign : UInt8 := 0x3D

/-- Splits a word at its first equals sign. -/
def splitAtEquals (w : Bytes) : Bytes × Option Bytes :=
  match w.dropWhile (· != equalsSign) with
  | [] => (w, none)
  | _ :: value => (w.takeWhile (· != equalsSign), some value)

/-- A word that looks like an option; a lone dash does not. -/
def Dashed.ofWord? : Bytes → Option Dashed
  | a :: b :: r =>
    if a = dash then
      if b = dash then
        if r.isEmpty then some .separator
        else
          let (name, value) := splitAtEquals r
          some (.long name value)
      else some (.cluster (b :: r))
    else none
  | _ => none

/-- Takes in a long option.  A value attached to one that has none is refused before anything
else, and an unknown name too. -/
def giveLong (o : Options) (pending : Pending) (name : Bytes) (value : Option Bytes) :
    Except Refusal (Options × Pending) :=
  match LongName.ofBytes? name, value with
  | none, _ => .error (.unknownOption ("--" ++ name.lossyText))
  | some .verbose, some v => .error (.unwantedValue v.lossyText "--verbose")
  | some .dryRun, some v => .error (.unwantedValue v.lossyText "--dry-run")
  | some .help, some v => .error (.unwantedValue v.lossyText "--help")
  | some .verbose, none => do return (← (← o.settle pending).giveVerbose, .nothing)
  | some .dryRun, none => do return (← (← o.settle pending).giveDryRun, .nothing)
  | some .help, none => do
    let _ ← o.settle pending
    .error (.help .long)
  | some .preset, some v => do return (← (← o.settle pending).givePreset v, .nothing)
  | some .preset, none => do return (← o.settle pending, .awaited)

/-- Takes in the letters of a cluster, one after the other. -/
def giveCluster (o : Options) (pending : Pending) :
    List Utf8.Chunk → Except Refusal (Options × Pending)
  | [] => .ok (o, pending)
  | .scalar c :: r =>
    if c = 'v' then do
      let o ← (← o.settle pending).giveVerbose
      giveCluster o .nothing r
    else if c = 'n' then do
      let o ← (← o.settle pending).giveDryRun
      giveCluster o .nothing r
    else if c = 'h' then do
      let _ ← o.settle pending
      .error (.help .short)
    else .error (.unknownOption (String.ofList ['-', c]))
  | .broken b :: r =>
    .error (.unknownOption (String.ofList ('-' :: (.broken b :: r).map Utf8.Chunk.replaced)))

/-- Ends the options at an action. -/
def withAction (o : Options) (pending : Pending) (action : Bytes) (trailing : List Bytes) :
    Except Refusal Invocation :=
  if action.text?.isNone then .error .actionNotText
  else do
    let o ← o.settle pending
    return ⟨o.verbose, o.dryRun, o.preset, action, trailing⟩

/-- Ends a command line without an action. -/
def withoutAction (o : Options) (pending : Pending) : Except Refusal Invocation := do
  let o ← o.settle pending
  .error (if o = .initial then .nothingGiven else .noAction)

/-- Reads a command line from a word on, after these options. -/
def parseFrom (o : Options) (pending : Pending) : List Bytes → Except Refusal Invocation
  | [] => withoutAction o pending
  | word :: r =>
    match Dashed.ofWord? word with
    | some .separator =>
      match r with
      | [] => withoutAction o pending
      | action :: trailing => withAction o pending action trailing
    | some (.long name value) => do
      let (o, pending) ← giveLong o pending name value
      parseFrom o pending r
    | some (.cluster letters) => do
      let (o, pending) ← giveCluster o pending (Utf8.chunks letters)
      parseFrom o pending r
    | none =>
      if pending = .awaited then parseFrom o (.value word) r
      else withAction o pending word r

/-- Reads the words after the name of the program. -/
def parse (words : List Bytes) : Except Refusal Invocation := parseFrom .initial .nothing words

/-- The action and everything after it. -/
def Invocation.tokens (i : Invocation) : List Bytes := i.action :: i.trailing

end CommandLine

end BuildDispatch
