import BuildDispatch.CommandLine

/-!
The grammar of the command line, apart from its reader: the ways to write the options, the separator
that may follow them, the action, and the words behind it.  `Layout.words` spells a layout out, and
`Layout.WellFormed` says which layouts are a command line.
-/

namespace BuildDispatch

namespace CommandLine

/-- An option without a value, as a letter in a cluster or by its long name. -/
inductive Flag where
  | verbose
  | dryRun
  deriving Repr, DecidableEq

/-- The letter of a flag in a cluster. -/
def Flag.letter : Flag → UInt8
  | .verbose => 0x76
  | .dryRun => 0x6E

/-- The option that a flag gives. -/
def Flag.opt : Flag → Opt
  | .verbose => .verbose
  | .dryRun => .dryRun

/-- One way to write options. -/
inductive WrittenOption where
  /-- A flag by its long name. -/
  | long (flag : Flag)
  /-- A dash and one or more letters of flags. -/
  | cluster (first : Flag) (more : List Flag)
  /-- A preset, attached by an equals sign or in a word of its own. -/
  | preset (p : Preset) (isAttached : Bool)
  deriving Repr, DecidableEq

namespace WrittenOption

/-- The words of a written option. -/
def words : WrittenOption → List Bytes
  | .long .verbose => [.ofText "--verbose"]
  | .long .dryRun => [.ofText "--dry-run"]
  | .cluster first more => [dash :: (first :: more).map Flag.letter]
  | .preset p true => [.ofText ("--preset=" ++ p.name)]
  | .preset p false => [.ofText "--preset", .ofText p.name]

/-- The options that a written option gives, in order. -/
def gives : WrittenOption → List Opt
  | .long flag => [flag.opt]
  | .cluster first more => (first :: more).map Flag.opt
  | .preset _ _ => [.preset]

/-- The preset that a written option names. -/
def preset? : WrittenOption → Option Preset
  | .preset p _ => some p
  | _ => none

end WrittenOption

/-- A command line by its parts. -/
structure Layout where
  options : List WrittenOption
  /-- Whether `--` stands between the options and the action. -/
  hasSeparator : Bool
  action : String
  rest : List Bytes
  deriving Repr, DecidableEq

namespace Layout

/-- The words of a layout. -/
def words (l : Layout) : List Bytes :=
  l.options.flatMap WrittenOption.words ++ (if l.hasSeparator then [[dash, dash]] else [])
    ++ .ofText l.action :: l.rest

/-- All options that a layout gives, in order. -/
def gives (l : Layout) : List Opt := l.options.flatMap WrittenOption.gives

/-- An action that cannot be taken for an option. -/
def IsPlainAction (action : String) : Prop :=
  action = "-" ∨ (Bytes.ofText action).head? ≠ some dash

/-- Every option is given at most once, and an action that looks like an option stands behind a
separator. -/
structure WellFormed (l : Layout) : Prop where
  nodup : l.gives.Nodup
  plain : l.hasSeparator = false → IsPlainAction l.action

/-- What a layout asks for. -/
def invocation (l : Layout) : Invocation where
  verbose := decide (.verbose ∈ l.gives)
  dryRun := decide (.dryRun ∈ l.gives)
  preset := l.options.findSome? WrittenOption.preset?
  action := .ofText l.action
  trailing := l.rest

end Layout

end CommandLine

end BuildDispatch
