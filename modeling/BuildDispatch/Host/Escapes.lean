import BuildDispatch.Bytes

/-!
Backslash escapes in words that are printed.
-/

namespace BuildDispatch.Host

/-- A byte by its ASCII character. -/
def ascii (c : Char) : UInt8 := UInt8.ofNat c.toNat

/-- Which escapes are known besides single letters and octal digits. -/
structure EscapeStyle where
  /-- `x` goes before up to two hexadecimal digits. -/
  hexadecimal : Bool
  /-- A zero may go before three octal digits. -/
  leadingZero : Bool
  /-- `c` ends all output. -/
  ends : Bool
  /-- A quote stands for itself. -/
  quotes : Bool

/-- The byte of a one-letter escape. -/
def letterEscape? (b : UInt8) : Option UInt8 :=
  ([('a', 7), ('b', 8), ('e', 27), ('f', 12), ('n', 10), ('r', 13), ('t', 9), ('v', 11), ('\\', 92)]
    : List (Char × UInt8)).findSome? fun (c, value) => if ascii c = b then some value else none

/-- A digit to the base ten. -/
def isDecimal (b : UInt8) : Bool := ascii '0' ≤ b && b ≤ ascii '9'

/-- A digit below eight. -/
def isOctal (b : UInt8) : Bool := ascii '0' ≤ b && b ≤ ascii '7'

/-- The value of a digit to the base sixteen. -/
def hexValue? (b : UInt8) : Option Nat :=
  if isDecimal b then some (b.toNat - 48)
  else if ascii 'a' ≤ b && b ≤ ascii 'f' then some (b.toNat - 87)
  else if ascii 'A' ≤ b && b ≤ ascii 'F' then some (b.toNat - 55)
  else none

/-- The number that digits stand for. -/
def digitsValue (base : Nat) (digits : Bytes) : Nat :=
  digits.foldl (fun n b => n * base + (hexValue? b).getD 0) 0

/-- The byte of up to so many octal digits, and what follows them. -/
def takeOctal (atMost : Nat) (b : Bytes) : UInt8 × Bytes :=
  let digits := (b.take atMost).takeWhile isOctal
  (.ofNat (digitsValue 8 digits % 256), b.drop digits.length)

/-- The byte of an escape, given what follows the backslash, and the rest. -/
def escaped? (style : EscapeStyle) : Bytes → Option (UInt8 × Bytes)
  | [] => none
  | e :: r =>
    if e = ascii '0' && style.leadingZero then some (takeOctal 3 r)
    else if isOctal e then some (takeOctal 3 (e :: r))
    else if e = ascii 'x' && style.hexadecimal then
      let digits := (r.take 2).takeWhile fun b => (hexValue? b).isSome
      if digits.isEmpty then none
      else some (.ofNat (digitsValue 16 digits), r.drop digits.length)
    else if e = ascii '"' && style.quotes then some (e, r)
    else (letterEscape? e).map fun value => (value, r)

/-- Text with its escapes undone, from the given bytes on; `true` if the escape that ends all output
was met. -/
def unescapeFrom (style : EscapeStyle) : (fuel : Nat) → Bytes → Bytes × Bool
  | 0, _ => ([], false)
  | _, [] => ([], false)
  | fuel + 1, b :: r =>
    if b != ascii '\\' then
      let (out, ended) := unescapeFrom style fuel r
      (b :: out, ended)
    else if style.ends && r.head? = some (ascii 'c') then ([], true)
    else
      let (value, rest) := (escaped? style r).getD (b, r)
      let (out, ended) := unescapeFrom style fuel rest
      (value :: out, ended)

/-- Text with its escapes undone; `true` if the escape that ends all output was met. -/
def unescape (style : EscapeStyle) (b : Bytes) : Bytes × Bool := unescapeFrom style b.length b

/-- The escapes of the program that echoes its words. -/
def programEscapes : EscapeStyle := ⟨true, true, true, false⟩

/-- The escapes of the shell's own way to echo words. -/
def shellEscapes : EscapeStyle := ⟨false, true, true, false⟩

/-- The escapes of a format of the shell. -/
def formatEscapes : EscapeStyle := ⟨false, false, false, false⟩

/-- The escapes of a format of a program. -/
def programFormatEscapes : EscapeStyle := ⟨true, false, true, true⟩

/-- The escapes of words in a format of a program. -/
def programWordEscapes : EscapeStyle := ⟨true, true, true, true⟩

end BuildDispatch.Host
