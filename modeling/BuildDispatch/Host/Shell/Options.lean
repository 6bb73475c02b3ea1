import BuildDispatch.Host.Escapes

/-!
The options of a shell: their names and letters.
-/

namespace BuildDispatch.Host

/-- The options of a shell.  Some have no effect on scripts. -/
inductive ShellOption where
  /-- A command that fails ends the script. -/
  | exitOnError
  /-- Patterns do not stand for names of files. -/
  | noNames
  | ignoreEnd
  | interactive
  | jobControl
  /-- Commands are read and not run. -/
  | noRun
  /-- Commands are read from the input. -/
  | fromInput
  /-- Commands are shown before they run. -/
  | trace
  /-- The text of a script is shown as it is read. -/
  | verbose
  | viKeys
  | emacsKeys
  /-- Files with something in them are not written over. -/
  | keepFiles
  /-- All variables that are set are handed on to programs. -/
  | exportAll
  | notify
  /-- A parameter without a value ends the script. -/
  | refuseUnset
  | privileged
  | noLog
  | debug
  deriving Repr, DecidableEq

namespace ShellOption

/-- The options in the order in which they are listed, with their names, and their letters if they
have any. -/
def table : List (ShellOption × String × Option Char) := [
  (.exitOnError, "errexit", some 'e'), (.noNames, "noglob", some 'f'),
  (.ignoreEnd, "ignoreeof", some 'I'), (.interactive, "interactive", some 'i'),
  (.jobControl, "monitor", some 'm'), (.noRun, "noexec", some 'n'), (.fromInput, "stdin", some 's'),
  (.trace, "xtrace", some 'x'), (.verbose, "verbose", some 'v'), (.viKeys, "vi", some 'V'),
  (.emacsKeys, "emacs", some 'E'), (.keepFiles, "noclobber", some 'C'),
  (.exportAll, "allexport", some 'a'), (.notify, "notify", some 'b'),
  (.refuseUnset, "nounset", some 'u'), (.privileged, "privileged", some 'p'),
  (.noLog, "nolog", none), (.debug, "debug", none)]

/-- The option of a letter. -/
def ofLetter? (letter : UInt8) : Option ShellOption :=
  (table.find? fun o => o.2.2.map ascii = some letter).map (·.1)

/-- The option of a name. -/
def ofName? (name : Bytes) : Option ShellOption :=
  (table.find? fun o => Bytes.ofText o.2.1 = name).map (·.1)

/-- Sets an option or takes it away. -/
def turn (o : ShellOption) (on : Bool) (set : List ShellOption) : List ShellOption :=
  if on then o :: set.filter (· != o) else set.filter (· != o)

/-- The letters of the options that are set, the last of the table first. -/
def letters (set : List ShellOption) : Bytes :=
  table.reverse.filterMap fun (o, _, letter) => if set.contains o then letter.map ascii else none

/-- The options with what they are set to: a table for the eye, or the commands that set them so. -/
def listing (asCommands : Bool) (set : List ShellOption) : Bytes :=
  let row (o : ShellOption × String × Option Char) : String :=
    let (option, name, _) := o
    let on := set.contains option
    if asCommands then "set " ++ (if on then "-o " else "+o ") ++ name ++ "\n"
    else
      name ++ String.ofList (List.replicate (16 - name.length) ' ') ++ (if on then "on" else "off")
        ++ "\n"
  .ofText ((if asCommands then "" else "Current option settings\n")
    ++ String.join (table.map row))

end ShellOption

end BuildDispatch.Host
