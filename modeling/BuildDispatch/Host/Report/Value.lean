import BuildDispatch.Host.Files
import BuildDispatch.Host.Report.Token

/-!
Values of reports: texts and numbers, formats in which they are printed, the fields of texts, and
what takes the place of matches.
-/

namespace BuildDispatch.Host.Report

open Decimal (Binary64)

/-! ### Values -/

/-- A value of a report. -/
inductive Value where
  | unset
  | number (n : Binary64)
  | text (b : Bytes)
  /-- A text from outside, which counts as a number if it looks like one. -/
  | found (b : Bytes)

namespace Value

/-- Whether a byte is a blank or the end of a line. -/
def isSpace (b : UInt8) : Bool := b = 0x20 || b = 0x09 || b = 0x0A

/-- The number at the front of a text, and what follows it; `none` if there is none. -/
def leading? (b : Bytes) : Option (Binary64 × Bytes) :=
  let inner := b.dropWhile isSpace
  let isSigned := inner.head? = some (ascii '-') || inner.head? = some (ascii '+')
  let digits := if isSigned then inner.tail else inner
  Format.leadingMagnitude? (inner.head? = some (ascii '-')) digits

/-- The number that a text spells as a whole, with blanks around it. -/
def spelled? (b : Bytes) : Option Binary64 :=
  (leading? b).bind fun (n, rest) => if rest.all isSpace then some n else none

/-- The number of a text: what is at its front, or zero. -/
def numberOf (b : Bytes) : Binary64 := ((leading? b).map (·.1)).getD .zero

/-- A value as a number. -/
def toNumber : Value → Binary64
  | unset => .zero
  | number n => n
  | text b | found b => numberOf b

/-- A value that counts as a number. -/
def asNumber? : Value → Option Binary64
  | unset => some .zero
  | number n => some n
  | text _ => none
  | found b => spelled? b

/-- Whether a value counts as true. -/
def isTrue : Value → Bool
  | unset => false
  | number n => !n.isZero
  | text b => !b.isEmpty
  | found b => match spelled? b with
    | some n => !n.isZero
    | none => !b.isEmpty

/-- A whole number. -/
def ofInt (n : Int) : Value := number (.ofInt n)

/-- A condition as a value. -/
def ofBool (b : Bool) : Value := ofInt (if b then 1 else 0)

end Value

/-! ### Formats -/

/-- Why a format cannot be followed. -/
inductive FormatFault where
  | missingWord
  | badDirective (number : Nat)

/-- A number as a directive of a format writes it. -/
def realText (l : Format.Layout) (directive : UInt8) (n : Binary64) : Bytes :=
  let sign (negative : Bool) : Bytes :=
    .ofText (if negative then "-" else if l.plus then "+" else if l.blank then " " else "")
  let cased (b : Bytes) : Bytes :=
    if directive < ascii 'a' then
      b.map fun x => if ascii 'a' ≤ x && x ≤ ascii 'z' then x - 32 else x
    else b
  match n with
  | .finite negative m e =>
    { l with precision := none }.number (sign negative) (cased (l.real directive m e))
  | .infinite negative => l.fill (sign negative ++ cased (.ofText "inf"))
  | .nan => l.fill (cased (.ofText "-nan"))

/-- A number as text: whole numbers in digits, and others in a format. -/
def numberText (format : Bytes) (n : Binary64) : Bytes :=
  match n.toInt? with
  | some i =>
    if i.natAbs < Decimal.twoTo 63 then .ofText (toString i) else general
  | none => general
where
  /-- The number in the format: a percent sign, perhaps a point and places, and a letter. -/
  general : Bytes :=
    let rest := format.dropWhile (· != ascii '.')
    let places := (rest.drop 1).takeWhile isDecimal
    let letter := format.getLast?.getD (ascii 'g')
    let precision := if rest.isEmpty then 6 else digitsValue 10 places
    realText ⟨false, false, false, false, false, 0, some precision⟩ letter n

/-- A value as text. -/
def Value.toText (format : Bytes) : Value → Bytes
  | .unset => []
  | .number n => numberText format n
  | .text b | .found b => b

/-- What a directive makes of a value; `none` if it has no meaning. -/
def directiveText? (convert : Bytes) (l : Format.Layout) (directive : UInt8) (v : Value) :
    Option Bytes :=
  let isOf (s : String) : Bool := (Bytes.ofText s).contains directive
  if isOf "di" then
    match v.toNumber.truncated? with
    | some n =>
      let sign := if n < 0 then "-" else if l.plus then "+" else if l.blank then " " else ""
      some (l.number (.ofText sign) (l.digits 10 n.natAbs))
    | none => some (realText { l with precision := none } (ascii 'f') v.toNumber)
  else if isOf "ouxX" then
    let n := (v.toNumber.truncated?).getD 0
    let bits := (n % (Decimal.twoTo 64 : Int)).toNat
    let base := if directive = ascii 'o' then 8 else if directive = ascii 'u' then 10 else 16
    let digits := l.digits base bits
    let digits := if directive = ascii 'X' then
        digits.map fun b => if ascii 'a' ≤ b then b - 32 else b
      else digits
    let mark : Bytes := if !l.alternate || bits = 0 then []
      else if base = 8 then .ofText "0"
      else if base = 16 then [ascii '0', directive] else []
    some (l.number mark digits)
  else if isOf "eEfFgG" then some (realText l directive v.toNumber)
  else if isOf "c" then
    some (l.fill (match v with
      | .number n => [.ofNat (((n.truncated?).getD 0) % 256).toNat]
      | v => [(v.toText convert).headD 0]))
  else if isOf "s" then
    let b := v.toText convert
    some (l.fill (match l.precision with
      | some n => b.take n
      | none => b))
  else none

/-- Values in a format, as far as it can be followed, and why it cannot be followed further. -/
def formatted (convert : Bytes) : (fuel number : Nat) → Bytes → List Value →
    Bytes × Option FormatFault
  | 0, _, b, _ => (b, none)
  | _, _, [], _ => ([], none)
  | fuel + 1, number, b :: r, values =>
    let more (out rest : Bytes) (number : Nat) (values : List Value) : Bytes × Option FormatFault :=
      let (behind, fault) := formatted convert fuel number rest values
      (out ++ behind, fault)
    if b != ascii '%' then more [b] r number values
    else if r.head? = some (ascii '%') then more [b] r.tail number values
    else
      let flags := r.takeWhile (Bytes.ofText "#-+ 0").contains
      let has (c : Char) : Bool := flags.contains (ascii c)
      let length (rest : Bytes) (values : List Value) : Int × Bytes × List Value :=
        if rest.head? = some (ascii '*') then
          (((values.headD .unset).toNumber.truncated?).getD 0, rest.tail, values.tail)
        else
          let digits := rest.takeWhile isDecimal
          (digitsValue 10 digits, rest.drop digits.length, values)
      let (width, rest, values) := length (r.drop flags.length) values
      let (precision, rest, values) : Option Int × Bytes × List Value :=
        if rest.head? = some (ascii '.') then
          let (n, rest, values) := length rest.tail values
          (some n, rest, values)
        else (none, rest, values)
      let l : Format.Layout := ⟨has '-' || width < 0, has '+', has ' ', has '#', has '0',
        width.natAbs, (precision.filter (0 ≤ ·)).map Int.toNat⟩
      match rest, values with
      | [], _ => ([], some (.badDirective number))
      | _ :: _, [] => ([], some .missingWord)
      | directive :: rest, v :: values =>
        match directiveText? convert l directive v with
        | some out => more out rest (number + 1) values
        | none => ([], some (.badDirective number))

/-! ### Fields and matches -/

/-- The parts of a text between matches of an expression that are not empty. -/
def splitAtMatches (r : Regex) : (fuel : Nat) → Bytes → List Bytes
  | 0, b => [b]
  | fuel + 1, b =>
    let isProper (p q : Regex.Place) : Bool := q.rest.length < p.rest.length
    match r.find? isProper [] ⟨none, b, []⟩ with
    | none => [b]
    | some m => m.front :: splitAtMatches r fuel m.rest

/-- The words of a text. -/
def wordsOf (b : Bytes) : List Bytes :=
  (b.foldr (fun x (parts : List Bytes) =>
    if Value.isSpace x then [] :: parts
    else match parts with
      | [] => [[x]]
      | part :: rest => (x :: part) :: rest) [[]]).filter (!·.isEmpty)

/-- How fields are told apart. -/
inductive Separator where
  | blanks
  | byte (b : UInt8)
  | each
  | pattern (r : Regex)

/-- The separator that a text stands for. -/
def Separator.ofBytes : Bytes → Separator
  | [] => .each
  | [b] => if b = 0x20 then .blanks else .byte b
  | b => .pattern (regexOf b)

/-- The fields of a text. -/
def Separator.split (s : Separator) (b : Bytes) : List Bytes :=
  if b.isEmpty then []
  else
    match s with
    | .blanks => wordsOf b
    | .byte x => splitOn x b
    | .each => b.map ([·])
    | .pattern r => splitAtMatches r (b.length + 1) b

/-- What takes the place of a match: an ampersand is the match itself, unless it stands behind a
backslash. -/
def replacementOf (text : Bytes) : Bytes → Bytes
  | [] => []
  | b :: r =>
    if b = ascii '\\' then
      match r with
      | [] => [b]
      | c :: rest =>
        if c = ascii '&' || c = ascii '\\' then c :: replacementOf text rest
        else b :: c :: replacementOf text rest
    else if b = ascii '&' then text ++ replacementOf text r
    else b :: replacementOf text r

/-- A text with matches replaced, all or the first one, and how many were; an empty match right
behind another does not count. -/
def replaceMatches (r : Regex) (isGlobal : Bool) (by_ : Bytes) : (fuel : Nat) →
    (before : Option UInt8) → (behindMatch : Bool) → Bytes → Bytes × Nat
  | 0, _, _, b => (b, 0)
  | fuel + 1, before, behindMatch, b =>
    let on (out : Bytes) (count : Nat) (before : Option UInt8) (behindMatch : Bool) (rest : Bytes) :
        Bytes × Nat :=
      let (more, n) := replaceMatches r isGlobal by_ fuel before behindMatch rest
      (out ++ more, count + n)
    match r.find? (fun _ _ => true) [] ⟨before, b, []⟩ with
    | none => (b, 0)
    | some m =>
      let isEmpty := m.text.isEmpty
      if isEmpty && m.front.isEmpty && behindMatch then
        match b with
        | [] => ([], 0)
        | x :: rest => on [x] 0 (some x) false rest
      else
        let out := m.front ++ replacementOf m.text by_
        if !isGlobal then (out ++ m.rest, 1)
        else if isEmpty then
          match m.rest with
          | [] => (out, 1)
          | x :: rest => on (out ++ [x]) 1 (some x) false rest
        else on out 1 (m.text.getLast?.or before) true m.rest

end BuildDispatch.Host.Report
