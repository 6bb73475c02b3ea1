import BuildDispatch.Host.Format
import BuildDispatch.Host.Regex.Reader
import BuildDispatch.Host.Report

/-!
The words of reports: what their bytes are as names, numbers, texts, expressions and signs.
-/

namespace BuildDispatch.Host.Report

open Decimal (Binary64)

/-- A word of a report. -/
inductive Token where
  | number (n : Binary64)
  | text (b : Bytes)
  | pattern (b : Bytes)
  | name (b : Bytes)
  /-- A name with a parenthesis right behind it. -/
  | call (b : Bytes)
  | builtin (f : Function)
  | keyword (s : String)
  | sign (s : String)
  | newline
  deriving DecidableEq

/-- The words with a meaning of their own. -/
def keywords : List String := [
  "BEGIN", "END", "function", "func", "if", "else", "while", "do", "for", "in", "next", "exit",
  "return", "break", "continue", "delete", "print", "printf", "getline"]

/-- The names of the functions. -/
def functionNames : List (String × Function) := [
  ("length", .length), ("substr", .substr), ("index", .index), ("split", .split), ("sub", .sub),
  ("gsub", .gsub), ("match", .find), ("sprintf", .sprintf), ("tolower", .lower),
  ("toupper", .upper), ("int", .truncate), ("sqrt", .root), ("exp", .exponential),
  ("log", .logarithm), ("sin", .sine), ("cos", .cosine), ("atan2", .angle), ("rand", .random),
  ("srand", .seed), ("close", .close)]

/-- The signs, longer ones before those that they begin with. -/
def signs : List String := [
  "&&", "||", "++", "--", "+=", "-=", "*=", "/=", "%=", "^=", "==", "<=", ">=", "!=", "!~", ">>",
  "<", ">", "=", "+", "-", "*", "/", "%", "^", "!", "~", "?", ":", ",", ";", "(", ")", "[", "]",
  "\x7b", "\x7d", "$"]

/-- The text of a word, as complaints show it. -/
def Token.shown : Token → Bytes
  | .number _ => .ofText "number"
  | .text b => .ofText "\"" ++ b ++ .ofText "\""
  | .pattern b => .ofText "/" ++ b ++ .ofText "/"
  | .name b | .call b => b
  | .builtin f => .ofText (((functionNames.find? fun x => x.2 = f).map (·.1)).getD "")
  | .keyword s | .sign s => .ofText s
  | .newline => .ofText "end of line"

/-- Whether a slash behind a word divides. -/
def Token.isOperand : Token → Bool
  | .number _ | .text _ | .pattern _ | .name _ | .builtin _ => true
  | .sign s => [")", "]", "$", "++", "--"].contains s
  | _ => false

/-- The byte of an escape in a text, given what follows the backslash, and the rest. -/
def textEscape? : Bytes → Option (UInt8 × Bytes)
  | [] => none
  | e :: r =>
    if isOctal e then some (takeOctal 3 (e :: r))
    else if e = ascii '"' then some (e, r)
    else if e = ascii 'e' then none
    else (letterEscape? e).map fun value => (value, r)

/-- A text with its escapes undone; a backslash before any other byte stays. -/
def unescapedText : (fuel : Nat) → Bytes → Bytes
  | 0, b => b
  | _, [] => []
  | fuel + 1, b :: r =>
    if b != ascii '\\' then b :: unescapedText fuel r
    else
      match textEscape? r with
      | some (value, rest) => value :: unescapedText fuel rest
      | none => b :: unescapedText fuel r

/-- The bytes up to a mark that no backslash goes before, and what follows the mark; brackets of an
expression hide it.  `none` if the line ends first. -/
def upToMark (mark : UInt8) (hasSets : Bool) : (fuel : Nat) → (inSet : Bool) → Bytes →
    Option (Bytes × Bytes)
  | 0, _, _ => none
  | _, _, [] => none
  | fuel + 1, inSet, b :: r =>
    let more (front : Bytes) (inSet : Bool) (rest : Bytes) : Option (Bytes × Bytes) :=
      (upToMark mark hasSets fuel inSet rest).map fun (taken, rest) => (front ++ taken, rest)
    if b = 0x0A then none
    else if b = mark && !inSet then some ([], r)
    else if b = ascii '\\' then
      match r with
      | [] => none
      | c :: rest => if c = 0x0A then more [] inSet rest else more [b, c] inSet rest
    else if hasSets && b = ascii '[' && !inSet then
      let front := if r.head? = some (ascii '^') then r.take 1 else []
      let rest := r.drop front.length
      if rest.head? = some (ascii ']') then more (b :: front ++ rest.take 1) true rest.tail
      else more (b :: front) true rest
    else more [b] (inSet && b != ascii ']') r

/-- Whether a byte may stand in a name. -/
def isNameByte (b : UInt8) : Bool := (Char.ofNat b.toNat).isAlphanum || b = ascii '_'

/-- The words of a report with their lines, or what is wrong with it; `before` is the word in
front. -/
def tokens : (fuel : Nat) → (line : Nat) → (before : Option Token) → Bytes →
    Except Bytes (List (Nat × Token))
  | 0, _, _, _ => .ok []
  | _, _, _, [] => .ok []
  | fuel + 1, line, before, b :: r => do
    let put (t : Token) (rest : Bytes) : Except Bytes (List (Nat × Token)) := do
      let isEnd := t matches .newline
      return (line, t) :: (← tokens fuel (if isEnd then line + 1 else line) (some t) rest)
    let place : Bytes := .ofText ("line " ++ toString line ++ ": ")
    let row := r.takeWhile (· != 0x0A)
    if b = 0x20 || b = 0x09 || b = 0x0D then tokens fuel line before r
    else if b = ascii '#' then tokens fuel line before (r.drop row.length)
    else if b = ascii '\\' && (r.head? = some 0x0A) then tokens fuel (line + 1) before r.tail
    else if b = 0x0A then put .newline r
    else if isDecimal b || (b = ascii '.' && (r.head?.map isDecimal).getD false) then
      match Format.leadingDecimal? (b :: r) with
      | some (n, rest) => put (.number n) rest
      | none => .error (place ++ .ofText "syntax error at or near " ++ [b])
    else if isNameByte b then
      let name := (b :: r).takeWhile isNameByte
      let rest := r.drop (name.length - 1)
      match keywords.find? (Bytes.ofText · = name) with
      | some "func" => put (.keyword "function") rest
      | some s => put (.keyword s) rest
      | none =>
        match functionNames.find? fun x => Bytes.ofText x.1 = name with
        | some (_, f) => put (.builtin f) rest
        | none => put (if rest.head? = some (ascii '(') then .call name else .name name) rest
    else if b = ascii '"' then
      match upToMark b false (r.length + 1) false r with
      | some (text, rest) => put (.text (unescapedText text.length text)) rest
      | none => .error (place ++ .ofText "runaway string constant \"" ++ row ++ .ofText " ...")
    else if b = ascii '/' && !(before.map Token.isOperand).getD false then
      match upToMark b true (r.length + 1) false r with
      | some (text, rest) => put (.pattern text) rest
      | none => .error (place ++ .ofText "runaway regular expression /" ++ row ++ .ofText " ...")
    else
      match signs.find? fun s => (Bytes.ofText s).isPrefixOf (b :: r) with
      | some s => put (.sign s) (r.drop (s.length - 1))
      | none => .error (.ofText (toString line ++ ": unexpected character '") ++ [b] ++ .ofText "'")

/-! ### Regular expressions -/

/-- How expressions are written. -/
def writing : Regex.Writing := ⟨true, false, false, false, false⟩

/-- An expression in the common writing: escapes that stand for bytes are undone. -/
def commonWriting : (fuel : Nat) → (inSet : Bool) → Bytes → Bytes
  | 0, _, b => b
  | _, _, [] => []
  | fuel + 1, inSet, b :: r =>
    if b = ascii '\\' then
      match r with
      | [] => [b, b]
      | c :: rest =>
        match textEscape? r with
        | some (value, rest) =>
          let isSpecial := (Bytes.ofText "\\^$.[]|()*+?\x7b\x7d").contains value
          (if !inSet && isSpecial then [b, value] else [value]) ++ commonWriting fuel inSet rest
        | none =>
          (if inSet || c = ascii '/' then [c] else [b, c]) ++ commonWriting fuel inSet rest
    else if b = ascii '[' && !inSet then
      let front := if r.head? = some (ascii '^') then r.take 1 else []
      let rest := r.drop front.length
      let first := if rest.head? = some (ascii ']') then rest.take 1 else []
      b :: front ++ first ++ commonWriting fuel true (rest.drop first.length)
    else b :: commonWriting fuel (inSet && b != ascii ']') r

/-- The regular expression of a text; one that cannot be read matches its own text. -/
def regexOf (b : Bytes) : Regex :=
  match Regex.ofBytes writing (commonWriting (b.length + 1) false b) with
  | .ok r => r
  | .error _ => Regex.ofText (· == ·) b

end BuildDispatch.Host.Report
