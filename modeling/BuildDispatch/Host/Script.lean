import BuildDispatch.Bytes

/-!
Shell scripts: commands made of words, redirections, and other commands.
-/

namespace BuildDispatch.Host

/-- What a dollar sign can stand for. -/
inductive Param where
  | variable (name : Bytes)
  /-- An argument of the script, counted from one; zero is its name. -/
  | position (n : Nat)
  /-- All arguments, each a word of its own. -/
  | each
  /-- All arguments; between double quotes, one word. -/
  | joined
  /-- The number of arguments. -/
  | count
  /-- The status of the last command. -/
  | status
  /-- The number of the process. -/
  | self
  /-- The number of the last process in the background. -/
  | background
  /-- The letters of the options that are set. -/
  | options
  deriving Repr, DecidableEq

/-- When a word takes the place of the value of a parameter, and what else happens. -/
inductive Alternative where
  /-- If there is no value. -/
  | absent
  /-- If there is no value; the parameter gets the word as its value. -/
  | assigned
  /-- If there is no value; the word is a message with which the script ends. -/
  | required
  /-- If there is a value. -/
  | present
  deriving Repr, DecidableEq

/-- The part of a value that a pattern takes away. -/
inductive Trim where
  | front (longest : Bool)
  | back (longest : Bool)
  deriving Repr, DecidableEq

mutual

/-- A part of a word.  What is quoted is never split. -/
inductive Piece where
  | text (b : Bytes) (quoted : Bool)
  | value (p : Param) (quoted : Bool)
  /-- The length of a value. -/
  | size (p : Param) (quoted : Bool)
  /-- A value, or a word in its place; `emptyToo` says that an empty value counts as none. -/
  | alternative (p : Param) (a : Alternative) (emptyToo : Bool) (word : List Piece) (quoted : Bool)
  | trimmed (p : Param) (t : Trim) (pattern : List Piece) (quoted : Bool)
  /-- What commands print. -/
  | output (s : Option Script) (quoted : Bool)
  /-- The value of an arithmetic expression. -/
  | number (expression : List Piece) (quoted : Bool)
  /-- Braces behind a dollar sign that mean nothing. -/
  | meaningless

/-- A redirection of a descriptor. -/
inductive Redirection where
  /-- To a file, from its beginning or behind its end. -/
  | write (descriptor : Nat) (path : List Piece) (behind forced : Bool)
  | read (descriptor : Nat) (path : List Piece)
  /-- From and to a file. -/
  | open (descriptor : Nat) (path : List Piece)
  /-- To where another descriptor leads. -/
  | copy (descriptor : Nat) (source : List Piece)
  /-- From a text in the script. -/
  | document (descriptor : Nat) (text : List Piece)

/-- Commands.  Some know the line on which they begin. -/
inductive Script where
  | simple (assignments : List (Bytes × List Piece)) (words : List (List Piece))
      (redirections : List Redirection) (line : Nat)
  | sequence (first second : Script)
  | both (first second : Script)
  | either (first second : Script)
  | negation (s : Script)
  /-- Each command reads what the one before it prints. -/
  | pipeline (stages : List Script)
  | background (s : Script)
  | branch (condition body : Script) (otherwise : Option Script)
  /-- Runs the body once for each word, with the variable of this name set to it. -/
  | each (name : Bytes) (words : List (List Piece)) (body : Script) (line : Nat)
  /-- Runs the body as long as the condition comes out as `goesOn`. -/
  | repeated (goesOn : Bool) (condition body : Script)
  /-- Runs the body of the first case with a pattern that accepts a word. -/
  | choice (subject : List Piece) (cases : List (List (List Piece) × Option Script)) (line : Nat)
  /-- Runs a body on a copy of the shell. -/
  | apart (body : Script)
  | redirected (body : Script) (redirections : List Redirection) (line : Nat)
  | function (name : Bytes) (body : Script)

end

namespace Script

/-- The characters with which the name of a variable may begin. -/
def isNameStart (c : Char) : Bool := c.isAlpha || c == '_'

/-- The characters of the name of a variable. -/
def isNameChar (c : Char) : Bool := c.isAlphanum || c == '_'

/-- Whether bytes spell the name of a variable. -/
def isName (b : Bytes) : Bool :=
  match b.map fun x => Char.ofNat x.toNat with
  | [] => false
  | c :: r => isNameStart c && r.all isNameChar

end Script

/-- A word of a script, piece by piece. -/
abbrev Word := List Piece

/-- What is wrong with the text of a script, with the line where it was found. -/
structure SyntaxError where
  line : Nat
  reason : String
  deriving Repr, DecidableEq

end BuildDispatch.Host
