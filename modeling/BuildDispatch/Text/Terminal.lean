/-!
Text as a terminal without colours shows it: control characters other than white space are left out,
and so are escape sequences as a whole.
-/

namespace BuildDispatch.Text.Terminal

/-- Where in an escape sequence a character stands. -/
inductive State where
  /-- In no sequence. -/
  | ground
  /-- Behind an escape character. -/
  | escape
  /-- In an escape sequence with intermediate characters. -/
  | intermediate
  /-- In a control sequence, before its final character. -/
  | control
  /-- In a string that a bell ends. -/
  | command
  /-- At the head of a device control string. -/
  | device
  /-- In the parameters of a device control string. -/
  | deviceParameter
  /-- In the intermediate characters of a device control string. -/
  | deviceIntermediate
  /-- In a string that the byte `0x9C` ends. -/
  | data
  deriving Repr, DecidableEq

/-- White space that is shown wherever it stands outside a string. -/
def isSpace (c : Char) : Bool := c == '\t' || c == '\n' || c == '\x0c' || c == '\r'

/-- Characters that are shown where no escape sequence is open. -/
def isPrintable (c : Char) : Bool := 0x20 ≤ c.toNat && c.toNat != 0x7F

/-- Whether the byte that ends a string is among the bytes of a character. -/
def endsData (c : Char) : Bool := (String.utf8EncodeChar c).contains 0x9C

/-- The state behind an ASCII character that is no control character. -/
def State.behindGraphic (s : State) (c : Char) : State :=
  let n := c.toNat
  match s with
  | .ground | .command | .data => s
  | .escape =>
    if n ≤ 0x2F then .intermediate
    else if c = '[' then .control
    else if c = ']' then .command
    else if c = 'P' then .device
    else if c = 'X' || c = '^' || c = '_' then .data
    else .ground
  | .intermediate => if n ≤ 0x2F then .intermediate else .ground
  | .control => if n ≤ 0x3F then .control else .ground
  | .device =>
    if n ≤ 0x2F then .deviceIntermediate else if n ≤ 0x3F then .deviceParameter else .data
  | .deviceParameter =>
    if n ≤ 0x2F then .deviceIntermediate else if n ≤ 0x3B then .deviceParameter else .data
  | .deviceIntermediate => if n ≤ 0x2F then .deviceIntermediate else .data

/--
The state behind a character that is not shown. Sequences are read byte by byte, so a string may end
within a character outside ASCII; the rest of that character is not shown either.
-/
def State.behind (s : State) (c : Char) : State :=
  let n := c.toNat
  if n = 0x1B then .escape
  else if n = 0x18 || n = 0x1A then .ground
  else if 0x20 ≤ n && n < 0x7F then s.behindGraphic c
  else
    match s with
    | .command => if n = 0x07 then .ground else .command
    | .data => if endsData c then .ground else .data
    | _ => s

/-- Whether a state lets white space through. -/
def State.showsSpace : State → Bool
  | .ground | .escape | .intermediate | .control => true
  | .command | .device | .deviceParameter | .deviceIntermediate | .data => false

/-- How a text comes to the terminal. -/
inductive Delivery where
  /-- In one piece: white space shown within an escape sequence ends the sequence. -/
  | whole
  /-- As a stream: the sequence goes on at the next character that is not shown. -/
  | stream
  deriving Repr, DecidableEq

/-- The state kept behind white space. -/
def Delivery.behindSpace : Delivery → State → State
  | .whole, _ => .ground
  | .stream, s => s

/--
The shown characters, from a state on. Within a run of shown characters (`showing`) all printable
ones are shown, whatever the state.
-/
def shownFrom (d : Delivery) : (state : State) → (showing : Bool) → List Char → List Char
  | _, _, [] => []
  | s, showing, c :: r =>
    if isSpace c && (showing || s.showsSpace) then c :: shownFrom d (d.behindSpace s) true r
    else if isPrintable c && (showing || s = .ground) then
      c :: shownFrom d (if c.toNat < 0x80 then s else .ground) true r
    else shownFrom d (s.behind c) false r

/-- The text as it shows; an escape sequence left open at its end is not shown either. -/
def shown (d : Delivery) (s : String) : String := String.ofList (shownFrom d .ground false s.toList)

end BuildDispatch.Text.Terminal
