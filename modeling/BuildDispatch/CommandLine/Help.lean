import BuildDispatch.CommandLine
import BuildDispatch.Text.Likeness
import BuildDispatch.Text.Styled

/-!
The texts of the command line: help in its two forms, and the words in which it is refused.
-/

namespace BuildDispatch

namespace CommandLine

open Text (Styled)

/-- Lines, each with its end. -/
def lines (l : List String) : String := String.join (l.map (· ++ "\n"))

/-- The shape of a command line. -/
def usage : Styled := [⟨.heading, "Usage:"⟩, ⟨.plain, " x [OPTIONS] <ACTION> [ARGS]..."⟩]

/-- What an option does. -/
def Opt.summary : Opt → String
  | .verbose => "Print the composed command line on stderr before running it"
  | .dryRun => "Print the composed command line and exit without running it"
  | .preset => "Built-in policy table to use (overrides `preset` in x.toml)"

/-- The names of options, separated by commas. -/
def optionNames (names : List String) : Styled :=
  [⟨.plain, ", "⟩].intercalate (names.map fun name => [⟨.literal, name⟩])

/-- The options: what stands in front of their names, the names, and what stands behind. -/
def optionTable : List (String × List String × String) := [
  ("  ", ["-v", "--verbose"], ""), ("  ", ["-n", "--dry-run"], ""),
  ("      ", ["--preset"], " <PRESET>"), ("  ", ["-h", "--help"], "")]

/-- The possible values of an option, in a row. -/
def possibleValues (tone : Text.Tone) : Styled :=
  Styled.plain "[possible values: "
    ++ [⟨.plain, ", "⟩].intercalate (Preset.all.map fun p => [⟨tone, p.name⟩]) ++ Styled.plain "]"

/-- A preset in the list of possible values, its name filled up to the longest one. -/
def presetLine (p : Preset) : Styled :=
  let width := (Preset.all.map fun q => q.name.length).foldl max 0
  let filler := String.ofList (List.replicate (width - p.name.length) ' ')
  [⟨.plain, "\n          - "⟩, ⟨.literal, p.name⟩, ⟨.plain, ": " ++ filler ++ p.summary⟩]

/-- What the help says about each option, in the order of the table. -/
def remarks : HelpForm → List Styled
  | .short => [
    Styled.plain Opt.verbose.summary, Styled.plain Opt.dryRun.summary,
    Styled.plain (Opt.preset.summary ++ " ") ++ possibleValues .plain,
    Styled.plain "Print help (see more with '--help')"]
  | .long => [
    Styled.plain Opt.verbose.summary, Styled.plain Opt.dryRun.summary,
    Styled.plain (Opt.preset.summary ++ "\n\n          Possible values:")
      ++ Preset.all.flatMap presetLine,
    Styled.plain "Print help (see a summary with '-h')"]

/-- The column at which the remarks of the short help stand. -/
def remarkColumn : Nat := 25

/-- An option with its remark: on its line, or in a paragraph of its own. -/
def optionEntry (form : HelpForm) (option : String × List String × String) (remark : Styled) :
    Styled :=
  let (front, names, behind) := option
  let width := front.length + (", ".intercalate names).length + behind.length
  let gap := match form with
    | .short => String.ofList (List.replicate (remarkColumn - width) ' ')
    | .long => "\n          "
  .plain front ++ optionNames names ++ Styled.plain (behind ++ gap) ++ remark

/-- The help text. -/
def help (form : HelpForm) : Styled :=
  let separator : Styled := match form with
    | .short => Styled.plain "\n"
    | .long => Styled.plain "\n\n"
  Styled.plain "Run a cargo action with the environment and features it needs\n\n" ++ usage
    ++ [⟨.plain, "\n\n"⟩, ⟨.heading, "Options:"⟩, ⟨.plain, "\n"⟩]
    ++ separator.intercalate (List.zipWith (optionEntry form) optionTable (remarks form))
    ++ Styled.plain (lines ["", "", "Everything after <ACTION> is passed to cargo untouched.",
      "Options for x itself must come before the action."])

namespace Refusal

/-- What is wrong with a command line, in the words of an error. -/
def complaint : Refusal → Styled
  | .help _ | .nothingGiven => []
  | .noAction =>
    [⟨.plain, "'"⟩, ⟨.invalid, "x"⟩,
      ⟨.plain, "' requires a subcommand but one was not provided"⟩]
  | .unknownOption word =>
    [⟨.plain, "unexpected argument '"⟩, ⟨.invalid, word⟩, ⟨.plain, "' found"⟩]
  | .repeated option =>
    [⟨.plain, "the argument '"⟩, ⟨.invalid, option.shown⟩,
      ⟨.plain, "' cannot be used multiple times"⟩]
  | .unwantedValue value option =>
    [⟨.plain, "unexpected value '"⟩, ⟨.invalid, value⟩, ⟨.plain, "' for '"⟩, ⟨.literal, option⟩,
      ⟨.plain, "' found; no more were expected"⟩]
  | .missingPreset =>
    [⟨.plain, "a value is required for '"⟩, ⟨.invalid, Opt.preset.shown⟩,
      ⟨.plain, "' but none was supplied"⟩]
  | .badPreset value =>
    [⟨.plain, "invalid value '"⟩, ⟨.invalid, value⟩, ⟨.plain, "' for '"⟩,
      ⟨.literal, Opt.preset.shown⟩, ⟨.plain, "'"⟩]
  | .actionNotText => Styled.plain "invalid UTF-8 was detected in one or more arguments"

/-- What may have been meant: its kind, and the nearest that there is. -/
def meant? : Refusal → Option (String × String)
  | .unknownOption word =>
    match word.toList with
    | '-' :: '-' :: name =>
      (Text.Likeness.nearest? (String.ofList name) (LongName.all.map LongName.name)).map
        fun s => ("argument", "--" ++ s)
    | _ => none
  | .badPreset value =>
    (Text.Likeness.nearest? value (Preset.all.map Preset.name)).map fun s => ("value", s)
  | _ => none

/-- A tip on what may have been meant. -/
def tip (r : Refusal) : Styled :=
  match r.meant? with
  | some (kind, nearest) =>
    [⟨.plain, "\n\n  "⟩, ⟨.valid, "tip:"⟩, ⟨.plain, " a similar " ++ kind ++ " exists: '"⟩,
      ⟨.valid, nearest⟩, ⟨.plain, "'"⟩]
  | none => []

/-- The whole text of a refusal: the help text where that is the answer. -/
def styled (r : Refusal) : Styled :=
  let error := [⟨.failure, "error:"⟩, ⟨.plain, " "⟩] ++ r.complaint
  let values := Styled.plain "\n  " ++ possibleValues .valid
  let shape := Styled.plain "\n\n" ++ usage
  let hint :=
    [⟨.plain, "\n\nFor more information, try '"⟩, ⟨.literal, "--help"⟩, ⟨.plain, "'.\n"⟩]
  match r with
  | .help form => CommandLine.help form
  | .nothingGiven => CommandLine.help .short
  | .missingPreset | .badPreset _ => error ++ values ++ r.tip ++ hint
  | _ => error ++ r.tip ++ shape ++ hint

/-- The whole text of a refusal, as it is written out: with colours if they are asked for, and
otherwise as a terminal without them would show it. -/
def text (r : Refusal) (inColour : Bool) : String :=
  if inColour then r.styled.coloured else r.styled.shown .stream

/--
The first line of a refusal, without a carriage return at its end; the whole text where that is
help.
-/
def headline (r : Refusal) : String :=
  let shown := r.styled.shown .whole
  match r with
  | .help _ | .nothingGiven => shown
  | _ =>
    let line := shown.toList.takeWhile (· != '\n')
    String.ofList (if line.getLast? = some '\r' then line.dropLast else line)

/-- Asking for help is no failure; every other refusal is one of usage. -/
def exitCode : Refusal → Nat
  | .help _ => 0
  | _ => 2

end Refusal

end CommandLine

end BuildDispatch
