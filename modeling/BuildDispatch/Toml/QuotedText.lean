import BuildDispatch.Toml.Reader

/-!
The four forms of TOML strings.  Basic strings, between double quotes, have escapes; literal
strings, between apostrophes, have none.  Tripled quotes open the forms that may span lines.
-/

namespace BuildDispatch.Toml

namespace QuotedText

/-- The character of a code point, unless it is a surrogate or out of range. -/
def scalar? (n : Nat) : Option Char :=
  if n < 0xD800 || (0xE000 ≤ n && n ≤ 0x10FFFF) then some (Char.ofNat n) else none

/-- A code point in a fixed number of hexadecimal digits. -/
def codePoint (count : Nat) : Reader Char := fun s => do
  let (digits, r) ← exactDigits isHexDigit count s
  let c ← scalar? (digitsValue 16 digits)
  some (c, r)

/-- What a backslash in a basic string introduces. -/
def escape : Reader Char
  | 'b' :: r => some ('\x08', r)
  | 't' :: r => some ('\t', r)
  | 'n' :: r => some ('\n', r)
  | 'f' :: r => some ('\x0c', r)
  | 'r' :: r => some ('\r', r)
  | '"' :: r => some ('"', r)
  | '\\' :: r => some ('\\', r)
  | 'u' :: r => codePoint 4 r
  | 'U' :: r => codePoint 8 r
  | _ => none

/-- The rest of a basic string, after its opening quote. -/
def basicBody : (fuel : Nat) → Reader (List Char)
  | 0, _ => none
  | _, [] => none
  | _ + 1, '"' :: r => some ([], r)
  | fuel + 1, '\\' :: r => do
    let (c, r) ← escape r
    let (cs, r) ← basicBody fuel r
    some (c :: cs, r)
  | fuel + 1, c :: r =>
    if isTextChar c then do
      let (cs, r) ← basicBody fuel r
      some (c :: cs, r)
    else none

/-- The end of a string whose closing quotes are tripled: up to two more of them belong to it. -/
def closingQuotes (quote : Char) : Reader (List Char)
  | a :: b :: r =>
    if a = quote && b = quote then some ([quote, quote], r)
    else if a = quote then some ([quote], b :: r)
    else some ([], a :: b :: r)
  | [a] => if a = quote then some ([quote], []) else some ([], [a])
  | [] => some ([], [])

/-- Skips blanks and ends of lines. -/
def skipBlankLines : List Char → List Char
  | '\r' :: '\n' :: r => skipBlankLines r
  | c :: r => if isBlank c || c == '\n' then skipBlankLines r else c :: r
  | [] => []

/-- The text after a backslash that ends its line, and after all blank lines and blanks that
follow. -/
def continuedLine? (s : List Char) : Option (List Char) :=
  (newline? (skipBlanks s)).map skipBlankLines

/-- The rest of a basic string with tripled quotes. -/
def longBasicBody : (fuel : Nat) → Reader (List Char)
  | 0, _ => none
  | _, [] => none
  | _ + 1, '"' :: '"' :: '"' :: r => closingQuotes '"' r
  | fuel + 1, '\\' :: r =>
    match continuedLine? r with
    | some r => longBasicBody fuel r
    | none => do
      let (c, r) ← escape r
      let (cs, r) ← longBasicBody fuel r
      some (c :: cs, r)
  | fuel + 1, c :: r =>
    match newline? (c :: r) with
    | some r => do
      let (cs, r) ← longBasicBody fuel r
      some ('\n' :: cs, r)
    | none =>
      if isTextChar c then do
        let (cs, r) ← longBasicBody fuel r
        some (c :: cs, r)
      else none

/-- The rest of a literal string, after its opening apostrophe. -/
def literalBody : Reader (List Char)
  | [] => none
  | '\'' :: r => some ([], r)
  | c :: r =>
    if isTextChar c then do
      let (cs, r) ← literalBody r
      some (c :: cs, r)
    else none

/-- The rest of a literal string with tripled apostrophes. -/
def longLiteralBody : (fuel : Nat) → Reader (List Char)
  | 0, _ => none
  | _, [] => none
  | _ + 1, '\'' :: '\'' :: '\'' :: r => closingQuotes '\'' r
  | fuel + 1, c :: r =>
    match newline? (c :: r) with
    | some r => do
      let (cs, r) ← longLiteralBody fuel r
      some ('\n' :: cs, r)
    | none =>
      if isTextChar c then do
        let (cs, r) ← longLiteralBody fuel r
        some (c :: cs, r)
      else none

/-- The text after a line feed at the very front, which the long forms leave out. -/
def skipFirstNewline (s : List Char) : List Char := (newline? s).getD s

/-- A string of one line, as it may also name a key. -/
def readShort : Reader String
  | '"' :: r => (basicBody r.length r).map fun (cs, r) => (.ofList cs, r)
  | '\'' :: r => (literalBody r).map fun (cs, r) => (.ofList cs, r)
  | _ => none

/-- A string in any of its forms. -/
def read : Reader String
  | '"' :: '"' :: '"' :: r =>
    (longBasicBody r.length (skipFirstNewline r)).map fun (cs, r) => (.ofList cs, r)
  | '\'' :: '\'' :: '\'' :: r =>
    (longLiteralBody r.length (skipFirstNewline r)).map fun (cs, r) => (.ofList cs, r)
  | s => readShort s

end QuotedText

end BuildDispatch.Toml
