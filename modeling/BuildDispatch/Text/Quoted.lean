import BuildDispatch.Bytes.Utf8
import BuildDispatch.Text.Extending
import BuildDispatch.Text.Printable

/-!
Quoted texts and byte strings for messages.  Between double quotes everything shows on one line and
can be told apart: quotes and backslashes are escaped, characters that would not show are written by
their code point, and bytes that are not text by their value.
-/

namespace BuildDispatch.Text.Quoted

/-- Digits of a number to the base 16, lower case. -/
def hexDigits (n : Nat) : List Char := Nat.toDigits 16 n

/-- The written form of one character between double quotes. -/
def escape (c : Char) : List Char :=
  if c = '"' then ['\\', '"']
  else if c = '\\' then ['\\', '\\']
  else if c = '\t' then ['\\', 't']
  else if c = '\n' then ['\\', 'n']
  else if c = '\r' then ['\\', 'r']
  else if c = '\x00' then ['\\', '0']
  else if isPrintable c && !isExtending c then [c]
  else '\\' :: 'u' :: '\x7b' :: (hexDigits c.toNat ++ ['\x7d'])

/-- The two upper case digits of a byte. -/
def byteDigits (b : UInt8) : List Char :=
  ((if b < 16 then ['0'] else []) ++ hexDigits b.toNat).map Char.toUpper

/-- The written form of a chunk of bytes. -/
def escapeChunk : Utf8.Chunk → List Char
  | .scalar c => escape c
  | .broken bytes => bytes.flatMap fun b => '\\' :: 'x' :: byteDigits b

/-- A text between double quotes. -/
def ofText (s : String) : String := String.ofList ('"' :: (s.toList.flatMap escape ++ ['"']))

/-- A byte string between double quotes. -/
def ofBytes (b : Bytes) : String :=
  String.ofList ('"' :: ((Utf8.chunks b).flatMap escapeChunk ++ ['"']))

end BuildDispatch.Text.Quoted
