import BuildDispatch.Host.Escapes

/-!
How programs show a word in a message: between plain quotes, between quotes with escapes for what is
not printed, or the way that a shell would read it.
-/

namespace BuildDispatch.Host

/-- A word between single quotes, as it is. -/
def inPlainQuotes (b : Bytes) : Bytes := .ofText "'" ++ b ++ .ofText "'"

/-- Whether a byte is printed as it is: what is not ASCII is not. -/
def isPrintedPlain (b : UInt8) : Bool := 0x20 ≤ b && b < 0x7F

/-- What stands behind a backslash for a byte that is not printed: a letter, or else three octal
digits. -/
def escapeTail (b : UInt8) : Bytes :=
  let letters : List (UInt8 × Char) :=
    [(0x07, 'a'), (0x08, 'b'), (0x0C, 'f'), (0x0A, 'n'), (0x0D, 'r'), (0x09, 't'), (0x0B, 'v')]
  match letters.lookup b with
  | some c => [ascii c]
  | none => [48 + b / 64, 48 + b / 8 % 8, 48 + b % 8]

/-- A word between single quotes, with a backslash before a quote, before another backslash, and in
place of what is not printed. -/
def inQuotes (b : Bytes) : Bytes :=
  let shown (x : UInt8) : Bytes :=
    if x = ascii '\'' || x = ascii '\\' then [ascii '\\', x]
    else if isPrintedPlain x then [x]
    else ascii '\\' :: escapeTail x
  inPlainQuotes (b.flatMap shown)

/-- Whether a word means the same to a shell between double quotes as between single ones. -/
def isPlainInQuotes (b : Bytes) : Bool :=
  let special := Bytes.ofText "!\"#$&()*;<=>?[\\^\x60\x7b|\x7d~"
  let isPlain (x : UInt8) : Bool := isPrintedPlain x && !special.contains x
  let isMark (x : UInt8) : Bool := (Bytes.ofText "#~").contains x
  match b with
  | [] => true
  | x :: r => (isPlain x || isMark x) && r.all isPlain

/-- The inside of a word between single quotes for a shell.  What is not printed stands between
quotes of its own, which escapes count in; `isEscaping` says whether these are open. -/
def shellInside : (isEscaping : Bool) → Bytes → Bytes
  | _, [] => []
  | isEscaping, x :: r =>
    if x = ascii '\'' then Bytes.ofText "'\\''" ++ shellInside false r
    else if isPrintedPlain x then
      (if isEscaping then Bytes.ofText "''" else []) ++ x :: shellInside false r
    else
      (if isEscaping then [] else Bytes.ofText "'$'") ++ ascii '\\' :: escapeTail x
        ++ shellInside true r

/-- A word in quotes that a shell reads back. -/
def inShellQuotes (b : Bytes) : Bytes :=
  if b.contains (ascii '\'') && isPlainInQuotes b then .ofText "\"" ++ b ++ .ofText "\""
  else inPlainQuotes (shellInside false b)

/-- A name as a shell reads it back: in quotes only if it needs them, or holds a colon. -/
def shellName (b : Bytes) : Bytes :=
  let isAlone (x : UInt8) : Bool := b = [x] && (Bytes.ofText "\x7b\x7d").contains x
  let isSpecial (x : UInt8) : Bool :=
    !isPrintedPlain x || (Bytes.ofText " !\"$&'()*:;<=>?[\\^\x60|").contains x || isAlone x
  let isMarked := (b.head?.map (Bytes.ofText "#~").contains).getD true
  if isMarked || b.any isSpecial then inShellQuotes b else b

end BuildDispatch.Host
