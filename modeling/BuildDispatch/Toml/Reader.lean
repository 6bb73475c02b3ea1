/-!
Readers take a value off the front of a text and hand back the rest.  Here are the shared pieces:
blanks, comments, ends of lines, and runs of digits.
-/

namespace BuildDispatch.Toml

/-- Reads a value at the front of a text and gives the rest; `none` if there is none. -/
abbrev Reader (α : Type) := List Char → Option (α × List Char)

/-- Space and tab. -/
def isBlank (c : Char) : Bool := c == ' ' || c == '\t'

/-- Any character but the controls; tab is allowed, and so is all of Unicode beyond ASCII. -/
def isTextChar (c : Char) : Bool := c == '\t' || (0x20 ≤ c.toNat && c.toNat != 0x7F)

/-- The text after the blanks at its front. -/
def skipBlanks (s : List Char) : List Char := s.dropWhile isBlank

/-- The text after one line feed, with or without a carriage return before it. -/
def newline? : List Char → Option (List Char)
  | '\n' :: r => some r
  | '\r' :: '\n' :: r => some r
  | _ => none

/-- The text after a comment, if one stands at the front. -/
def skipComment : List Char → List Char
  | '#' :: r => r.dropWhile isTextChar
  | s => s

/-- The text after the end of a line, before which blanks and a comment may stand. -/
def lineEnd? (s : List Char) : Option (List Char) :=
  match skipComment (skipBlanks s) with
  | [] => some []
  | rest => newline? rest

/-- Skips blanks, ends of lines and comments; `inComment` says whether a comment is open. -/
def skipFrom : (inComment : Bool) → List Char → List Char
  | _, [] => []
  | inComment, c :: r =>
    if inComment && isTextChar c then skipFrom true r
    else if c = '#' then skipFrom true r
    else if isBlank c || c == '\n' then skipFrom false r
    else if c = '\r' && r.head? == some '\n' then skipFrom false r
    else c :: r

/-- Skips whatever may stand between the items of an array. -/
def skipLayout (s : List Char) : List Char := skipFrom false s

/-- Reads exactly this text. -/
def literally (expected : List Char) (s : List Char) : Option (List Char) :=
  if expected.isPrefixOf s then some (s.drop expected.length) else none

/-- Digits of a class, single underscores between them dropped. -/
def moreDigits (isDigit : Char → Bool) : List Char → List Char × List Char
  | '_' :: c :: r =>
    if isDigit c then
      let (digits, rest) := moreDigits isDigit r
      (c :: digits, rest)
    else ([], '_' :: c :: r)
  | c :: r =>
    if isDigit c then
      let (digits, rest) := moreDigits isDigit r
      (c :: digits, rest)
    else ([], c :: r)
  | [] => ([], [])

/-- At least one digit of a class, then more. -/
def digitRun (isDigit : Char → Bool) : Reader (List Char)
  | c :: r =>
    if isDigit c then
      let (digits, rest) := moreDigits isDigit r
      some (c :: digits, rest)
    else none
  | [] => none

/-- A digit to the base 8. -/
def isOctalDigit (c : Char) : Bool := '0' ≤ c && c ≤ '7'

/-- A digit to the base 2. -/
def isBinaryDigit (c : Char) : Bool := c == '0' || c == '1'

/-- A digit to the base 16, in either case. -/
def isHexDigit (c : Char) : Bool :=
  c.isDigit || ('a' ≤ c && c ≤ 'f') || ('A' ≤ c && c ≤ 'F')

/-- The value of a digit, letters of either case counting on from ten. -/
def digitValue (c : Char) : Nat :=
  if c.isDigit then c.toNat - '0'.toNat else c.toLower.toNat - 'a'.toNat + 10

/-- The value of digits to a base. -/
def digitsValue (base : Nat) (digits : List Char) : Nat :=
  digits.foldl (fun n c => n * base + digitValue c) 0

/-- Exactly `count` digits of a class. -/
def exactDigits (isDigit : Char → Bool) (count : Nat) : Reader (List Char) := fun s =>
  let digits := s.take count
  if digits.length = count && digits.all isDigit then some (digits, s.drop count) else none

end BuildDispatch.Toml
