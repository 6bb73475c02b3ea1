import BuildDispatch.Bytes.Utf8
import BuildDispatch.Command

/-!
The one-line rendering of a command: an assignment for every overridden variable, then the words of
the argument vector, quoted for a shell where needed.
-/

namespace BuildDispatch

namespace ShellWord

/-- Characters that stand for themselves outside quotes, wherever they occur in a word. -/
def isPlain (c : Char) : Bool := c.isAlphanum || "-_+=,./:@%".toList.contains c

/-- A word that needs no quotes. -/
def plain (s : List Char) : Bool := !s.isEmpty && s.all isPlain

/-- A character inside single quotes.  An apostrophe ends them, stands escaped, and reopens them. -/
def quoteChar (c : Char) : List Char := if c = '\'' then ['\'', '\\', '\'', '\''] else [c]

/-- A word as a shell reads it back. -/
def quote (s : List Char) : List Char :=
  if plain s then s else '\'' :: (s.flatMap quoteChar ++ ['\''])

end ShellWord

namespace Command

/-- A byte string as a quoted word; bytes that are not text show as U+FFFD. -/
def quoted (b : Bytes) : List Char := ShellWord.quote b.lossyText.toList

/-- The assignment that shows the value of an overridden variable. -/
def assignment? (c : Command) (name : Bytes) : Option (List Char) :=
  (c.env.get? name).map fun value => name.lossyText.toList ++ '=' :: quoted value

/-- The words of the rendering. -/
def renderedWords (c : Command) : List (List Char) :=
  c.overridden.filterMap c.assignment? ++ c.argv.map quoted

/-- The command on one line. -/
def render (c : Command) : String :=
  String.ofList ([' '].intercalate c.renderedWords)

end Command

end BuildDispatch
