import BuildDispatch.Decimal.Hexadecimal
import BuildDispatch.Decimal.Rounded
import BuildDispatch.Host.Arithmetic

/-!
Formats that print words: text with escapes, and directives that each take a word.  A format is used
again as long as words are left.
-/

namespace BuildDispatch.Host.Format

/-- How a directive lays out what it prints. -/
structure Layout where
  left : Bool
  plus : Bool
  blank : Bool
  alternate : Bool
  zeros : Bool
  width : Nat
  precision : Option Nat

/-- How formats are read. -/
structure Manner where
  /-- The escapes of the format. -/
  escapes : EscapeStyle
  /-- The escapes of words that may hold some. -/
  wordEscapes : EscapeStyle
  /-- Whether a directive is refused if a mark in it has no meaning, and letters for the size of a
  number are passed over. -/
  isStrict : Bool

/-- The manner of the shell. -/
def ofShell : Manner := ⟨formatEscapes, shellEscapes, false⟩

/-- The manner of the program that prints words. -/
def ofProgram : Manner := ⟨programFormatEscapes, programWordEscapes, true⟩

/-- What is wrong with a word that is to be a number. -/
inductive Flaw where
  | notNumeric
  | leftover
  | outOfRange
  /-- Something follows a byte that stands for its value. -/
  | behindByte
  deriving DecidableEq

/-- Why printing ended early. -/
inductive Halt where
  | missingDirective
  | invalidDirective (written : Bytes)
  | missingHexadecimal
  /-- Nothing can be printed at such a length. -/
  | tooLong
  /-- A word is no length. -/
  | invalidLength (ofPlaces : Bool) (word : Bytes)

/-- What printing has come to. -/
structure State where
  out : Bytes
  /-- The words that no directive has taken yet. -/
  words : List Bytes
  /-- Complaints about words that are no numbers. -/
  complaints : List (Bytes × Flaw)
  /-- Whether a directive has taken a word. -/
  used : Bool
  /-- Whether printing is over, whatever is left. -/
  ended : Bool

/-- Takes the next word, if there is one. -/
def State.take (s : State) : Option Bytes × State :=
  (s.words.head?, { s with words := s.words.tail, used := true })

/-- Prints. -/
def State.put (s : State) (b : Bytes) : State := { s with out := s.out ++ b }

/-- Fills a text up to a width. -/
def Layout.fill (l : Layout) (b : Bytes) : Bytes :=
  let filler : Bytes := List.replicate (l.width - b.length) 0x20
  if l.left then b ++ filler else filler ++ b

/-- A text cut to what the precision allows. -/
def Layout.cut (l : Layout) (b : Bytes) : Bytes :=
  match l.precision with
  | some n => b.take n
  | none => b

/-- The digits of a number, at least as many as the precision asks for. -/
def Layout.digits (l : Layout) (base n : Nat) : Bytes :=
  let digits : Bytes := if n = 0 && l.precision = some 0 then []
    else .ofText (String.ofList (Nat.toDigits base n))
  List.replicate (l.precision.getD 1 - digits.length) (ascii '0') ++ digits

/-- Digits behind a sign, or another mark, filled up to the width. -/
def Layout.number (l : Layout) (mark digits : Bytes) : Bytes :=
  if l.zeros && !l.left && l.precision.isNone then
    mark ++ List.replicate (l.width - mark.length - digits.length) (ascii '0') ++ digits
  else l.fill (mark ++ digits)

/-- The number at the front of a word, its sign apart, and what follows it; a quote goes before a
byte that stands for its value. -/
def leadingNumber (w : Bytes) : Int × Bytes :=
  match w with
  | q :: r =>
    if q = ascii '"' || q = ascii '\'' then ((r.headD 0).toNat, [])
    else
      let w := w.dropWhile fun x => x = 0x20 || (0x09 ≤ x && x ≤ 0x0D)
      let isSigned := w.head? = some (ascii '-') || w.head? = some (ascii '+')
      let digits := if isSigned then w.tail else w
      if (digits.head?.map isDecimal).getD false then
        let (n, rest) := Arithmetic.numeral digits
        (if w.head? = some (ascii '-') then -(n : Int) else n, rest)
      else (0, q :: r)
  | [] => (0, [])

/-- The exponent at the front of a text behind its letter, and what follows; without digits there is
none. -/
def leadingExponent (letters : String) (b : Bytes) : Int × Bytes :=
  match b with
  | [] => (0, [])
  | e :: r =>
    let isSigned := r.head? = some (ascii '-') || r.head? = some (ascii '+')
    let digits := (if isSigned then r.tail else r).takeWhile isDecimal
    if (Bytes.ofText letters).contains e && !digits.isEmpty then
      let n : Int := digitsValue 10 digits
      (if r.head? = some (ascii '-') then -n else n,
        r.drop (digits.length + if isSigned then 1 else 0))
    else (0, b)

open Decimal in
/-- The decimal number at the front of a text without blanks and sign, and what follows it; `none`
if there is none. -/
def leadingDecimal? (w : Bytes) : Option (Binary64 × Bytes) :=
  let whole := w.takeWhile isDecimal
  let rest := w.drop whole.length
  let places := if rest.head? = some (ascii '.') then rest.tail.takeWhile isDecimal else []
  if whole.isEmpty && places.isEmpty then none
  else
    let rest := if rest.head? = some (ascii '.') then rest.drop (places.length + 1) else rest
    let (e, rest) := leadingExponent "eE" rest
    some (.ofDecimal false (digitsValue 10 (whole ++ places)) (e - places.length), rest)

open Decimal in
/-- The floating point number at the front of a text without blanks and sign, and what follows it;
`none` if there is none. -/
def leadingMagnitude? (negative : Bool) (w : Bytes) : Option (Binary64 × Bytes) :=
  let lower := w.map fun b => if ascii 'A' ≤ b && b ≤ ascii 'Z' then b + 32 else b
  let begins (s : String) : Bool := (Bytes.ofText s).isPrefixOf lower
  let parts (isDigit : UInt8 → Bool) (w : Bytes) : Bytes × Bytes × Bytes :=
    let whole := w.takeWhile isDigit
    let rest := w.drop whole.length
    let places := if rest.head? = some (ascii '.') then rest.tail.takeWhile isDigit else []
    let hasPoint := rest.head? = some (ascii '.') && !(whole.isEmpty && places.isEmpty)
    (whole, places, if hasPoint then rest.drop (places.length + 1) else rest)
  let isHex (b : UInt8) : Bool := (hexValue? b).isSome
  if begins "infinity" then some (.infinite negative, w.drop 8)
  else if begins "inf" then some (.infinite negative, w.drop 3)
  else if begins "nan" then some (.nan, w.drop 3)
  else
    let (whole, places, rest) := parts isHex (w.drop 2)
    if begins "0x" && !(whole.isEmpty && places.isEmpty) then
      let (e, rest) := leadingExponent "pP" rest
      let e := e - 4 * places.length
      let n := digitsValue 16 (whole ++ places)
      if 5000 < e.natAbs then
        some (if e < 0 || n = 0 then .ofFraction negative 0 1 else .infinite negative, rest)
      else some (.ofFraction negative (n * twoTo e.toNat) (twoTo (-e).toNat), rest)
    else
      let (whole, places, rest) := parts isDecimal w
      if whole.isEmpty && places.isEmpty then none
      else
        let (e, rest) := leadingExponent "eE" rest
        some (.ofDecimal negative (digitsValue 10 (whole ++ places)) (e - places.length), rest)

open Decimal in
/-- The floating point number at the front of a word, and what follows it; a quote goes before a
byte that stands for its value. -/
def leadingReal (w : Bytes) : Binary64 × Bytes :=
  let zero : Binary64 := .ofFraction false 0 1
  match w with
  | [] => (zero, [])
  | q :: r =>
    if q = ascii '"' || q = ascii '\'' then (.ofFraction false (r.headD 0).toNat 1, [])
    else
      let inner := w.dropWhile fun x => x = 0x20 || (0x09 ≤ x && x ≤ 0x0D)
      let isSigned := inner.head? = some (ascii '-') || inner.head? = some (ascii '+')
      let negative := inner.head? = some (ascii '-')
      (leadingMagnitude? negative (if isSigned then inner.tail else inner)).getD (zero, w)

open Decimal in
/-- A floating point number as a directive prints it, without its sign. -/
def Layout.real (l : Layout) (directive : UInt8) (m : Nat) (e : Int) : Bytes :=
  let (num, den) := Binary64.fraction m e
  let places := l.precision.getD 6
  let letter := if directive < ascii 'a' then directive + 32 else directive
  let text :=
    if letter = ascii 'a' then hexadecimalText l.precision l.alternate m e
    else if letter = ascii 'f' then fixedText places l.alternate num den
    else if letter = ascii 'e' then scientificText places l.alternate num den
    else generalText places l.alternate num den
  .ofText (String.ofList text)

/-- What is wrong with a number, if something of its word is left. -/
def leftover? (w rest : Bytes) : Option Flaw :=
  if rest.isEmpty then none else if rest = w then some .notNumeric else some .leftover

/-- Whether a word is a quote alone, which a strict manner does not take as a number. -/
def isLoneQuote (m : Manner) (w : Bytes) : Bool :=
  m.isStrict && (w = [ascii '"'] || w = [ascii '\''])

/-- The bytes behind the one that stands for its value. -/
def behindByte (w : Bytes) : Bytes :=
  if w.head? = some (ascii '"') || w.head? = some (ascii '\'') then w.drop 2 else []

/-- What is said against a word that is taken as a number. -/
def State.complain (s : State) (m : Manner) (w : Bytes) (flaw : Option Flaw) : State :=
  match flaw with
  | some flaw => { s with complaints := s.complaints ++ [(w, flaw)] }
  | none =>
    if m.isStrict && !(behindByte w).isEmpty then
      { s with complaints := s.complaints ++ [(behindByte w, .behindByte)] }
    else s

open Decimal in
/-- Takes a word as a floating point number. -/
def State.takeReal (s : State) (manner : Manner) : Binary64 × State :=
  match s.take with
  | (none, s) => (.ofFraction false 0 1, s)
  | (some w, s) =>
    let (n, rest) := if isLoneQuote manner w then (.ofFraction false 0 1, w) else leadingReal w
    let named := (w.map fun b => if ascii 'A' ≤ b && b ≤ ascii 'Z' then b + 32 else b).contains
      (ascii 'n')
    let isOutside := match n with
      | .infinite _ => !named
      | .finite _ m e =>
        let mantissa := w.takeWhile fun b => b != ascii 'e' && b != ascii 'E'
        e = Binary64.leastExponent && m < twoTo 52
          && mantissa.any fun b => ascii '1' ≤ b && b ≤ ascii '9'
      | .nan => false
    let flaw := (leftover? w rest).or (if isOutside && rest.isEmpty then some .outOfRange else none)
    (n, s.complain manner w flaw)

/-- Takes a word as a number up to the given one. -/
def State.takeNumber (s : State) (manner : Manner) (largest : Int) : Int × State :=
  match s.take with
  | (none, s) => (0, s)
  | (some w, s) =>
    let (n, rest) := if isLoneQuote manner w then (0, w) else leadingNumber w
    let isOutside := largest < n || n < -Arithmetic.maxInt - 1
    let flaw := (leftover? w rest).or (if isOutside then some .outOfRange else none)
    (max (-Arithmetic.maxInt - 1) (min n largest), s.complain manner w flaw)

/-- Prints a word as a directive asks; `none` for a directive without a meaning. -/
def State.direct (s : State) (m : Manner) (l : Layout) (directive : UInt8) : Option State :=
  let isHexadecimal := directive = ascii 'a' || directive = ascii 'A'
  let natural (base : Nat) (mark : Bytes) (upper : Bool) : State :=
    let (n, s) := s.takeNumber m (2 * Arithmetic.maxInt + 1)
    let bits := Arithmetic.bits n
    let digits := l.digits base bits
    let digits := if upper then digits.map fun b => if ascii 'a' ≤ b then b - 32 else b else digits
    let mark := if !l.alternate || (base = 16 && bits = 0) ||
      (base = 8 && digits.head? = some (ascii '0')) then [] else mark
    s.put (l.number mark digits)
  if directive = ascii 's' then
    let (w, s) := s.take
    let w := w.getD []
    some (s.put (l.fill (l.cut w)))
  else if directive = ascii 'b' then
    let (w, s) := s.take
    let (out, ended) := unescape m.wordEscapes (w.getD [])
    some { s.put (l.fill (l.cut out)) with ended }
  else if directive = ascii 'c' then
    let (w, s) := s.take
    some (s.put (l.fill [(w.getD []).headD 0]))
  else if directive = ascii 'd' || directive = ascii 'i' then
    let (n, s) := s.takeNumber m Arithmetic.maxInt
    let sign := if n < 0 then "-" else if l.plus then "+" else if l.blank then " " else ""
    some (s.put (l.number (.ofText sign) (l.digits 10 n.natAbs)))
  else if (Bytes.ofText "eEfFgG").contains directive || (!m.isStrict && isHexadecimal) then
    let (n, s) := s.takeReal m
    let isUpper := directive < ascii 'a'
    let sign (negative : Bool) : Bytes :=
      .ofText (if negative then "-" else if l.plus then "+" else if l.blank then " " else "")
    let cased (b : Bytes) : Bytes :=
      if isUpper then b.map fun x => if ascii 'a' ≤ x && x ≤ ascii 'z' then x - 32 else x else b
    some (s.put (match n with
      | .finite negative m e =>
        let front : Bytes := if isHexadecimal then .ofText "0x" else []
        { l with precision := none }.number (sign negative ++ cased front)
          (cased (l.real directive m e))
      | .infinite negative => l.fill (sign negative ++ cased (.ofText "inf"))
      | .nan => l.fill (sign false ++ cased (.ofText "nan"))))
  else if directive = ascii 'u' then some (natural 10 [] false)
  else if directive = ascii 'o' then some (natural 8 (.ofText "0") false)
  else if directive = ascii 'x' then some (natural 16 (.ofText "0x") false)
  else if directive = ascii 'X' then some (natural 16 (.ofText "0X") true)
  else none

/-- The greatest length of what is printed. -/
def maxLength : Int := 2147483647

/-- A length in a directive: digits, or the next word for an asterisk.  Of a number in a word, a
manner that is not strict takes 32 bits. -/
def State.length (s : State) (m : Manner) (ofPlaces : Bool) (b : Bytes) :
    Except (Halt × State) (Int × State × Bytes) :=
  if b.head? = some (ascii '*') then
    let (n, after) := s.takeNumber m Arithmetic.maxInt
    let isOutside := maxLength < n || (n < -maxLength - 1 && !ofPlaces)
    if !m.isStrict then .ok (n.bmod 4294967296, after, b.tail)
    else if isOutside then .error (.invalidLength ofPlaces (s.words.headD []), s)
    else .ok (n, after, b.tail)
  else
    let n := digitsValue 10 (b.takeWhile isDecimal)
    if maxLength < n then .error (.tooLong, s) else .ok (n, s, b.dropWhile isDecimal)

/-- Whether the marks of a directive all have a meaning for it. -/
def Layout.fits (l : Layout) (directive : UInt8) (isBare : Bool) : Bool :=
  let isOf (s : String) : Bool := (Bytes.ofText s).contains directive
  !(l.alternate && isOf "cdisu") && !(l.zeros && isOf "cs") && !(l.precision.isSome && isOf "c")
    && (isBare || !isOf "b")

/-- Prints a format once; stops at a directive without a meaning, and says why. -/
def State.print (m : Manner) : (fuel : Nat) → State → Bytes → Except (Halt × State) State
  | 0, s, _ => .ok s
  | _, s, [] => .ok s
  | fuel + 1, s, b :: r =>
    if s.ended then .ok s
    else if b = ascii '\\' then
      if m.escapes.ends && r.head? = some (ascii 'c') then .ok { s with ended := true }
      else
        match escaped? m.escapes r with
        | some (value, rest) => print m fuel (s.put [value]) rest
        | none =>
          if m.escapes.hexadecimal && r.head? = some (ascii 'x') then
            .error (.missingHexadecimal, s)
          else print m fuel (s.put [b]) r
    else if b != ascii '%' then print m fuel (s.put [b]) r
    else if r.head? = some (ascii '%') then print m fuel (s.put [b]) r.tail
    else do
      let isFlag (x : UInt8) : Bool := (Bytes.ofText "#-+ 0").contains x
      let flags := r.takeWhile isFlag
      let has (c : Char) : Bool := flags.contains (ascii c)
      let (width, s, rest) ← s.length m false (r.drop flags.length)
      let (precision, s, rest) ←
        if rest.head? = some (ascii '.') then do
          let (n, s, rest) ← s.length m true rest.tail
          pure (if n < 0 then none else some n, s, rest)
        else pure (none, s, rest)
      let l : Layout := ⟨has '-' || width < 0, has '+', has ' ', has '#', has '0', width.natAbs,
        precision.map Int.toNat⟩
      let sizes := if m.isStrict then rest.takeWhile (Bytes.ofText "lLhjtz").contains else []
      match rest.drop sizes.length with
      | [] => .error (if m.isStrict then .invalidDirective (b :: r) else .missingDirective, s)
      | directive :: rest' =>
        let isBare := rest.length = r.length
        match if m.isStrict && !l.fits directive isBare then none else s.direct m l directive with
        | some s => print m fuel s rest'
        | none => .error (.invalidDirective ((b :: r).take (r.length + 1 - rest'.length)), s)

/-- Prints a format for words, again and again until none is left. -/
def State.printAll (m : Manner) (format : Bytes) :
    (fuel : Nat) → State → Except (Halt × State) State
  | 0, s => .ok s
  | fuel + 1, s => do
    let s ← s.print m (format.length + 1) format
    if s.words.isEmpty || !s.used || s.ended then return s
    else printAll m format fuel s

/-- What a format prints for words, and why it ended early if it did. -/
def print (m : Manner) (format : Bytes) (words : List Bytes) : State × Option Halt :=
  match State.printAll m format (words.length + 1) ⟨[], words, [], false, false⟩ with
  | .ok s => (s, none)
  | .error (halt, s) => (s, some halt)

end BuildDispatch.Host.Format
