import BuildDispatch.Host.Programs.Basic

/-!
Showing the bytes of a text as numbers or names, block by block.
-/

namespace BuildDispatch.Host.Programs

/-- How the items of a block are shown. -/
inductive ItemForm where
  /-- As characters: escapes, or octal digits for what cannot be printed. -/
  | character
  /-- By the names of the characters. -/
  | named
  /-- As numbers in a base, without a sign. -/
  | unsigned (base : Nat)
  | signed
  deriving Repr, DecidableEq

/-- A way to show a block: what an item is, how many bytes it has, and whether the printable bytes
stand behind. -/
structure DumpType where
  form : ItemForm
  size : Nat
  hasText : Bool
  deriving Repr, DecidableEq

/-- How many digits a number of so many bytes has at most. -/
def digitCount (base size : Nat) : Nat := (Nat.toDigits base (Nat.pow 256 size - 1)).length

/-- The width of an item. -/
def DumpType.width (t : DumpType) : Nat :=
  match t.form with
  | .character | .named => 3
  | .unsigned base => digitCount base t.size
  | .signed => if t.size = 8 then 20 else digitCount 10 t.size + 1

/-- The names of the characters that cannot be printed. -/
def characterNames : List String := [
  "nul", "soh", "stx", "etx", "eot", "enq", "ack", "bel", "bs", "ht", "nl", "vt", "ff", "cr", "so",
  "si", "dle", "dc1", "dc2", "dc3", "dc4", "nak", "syn", "etb", "can", "em", "sub", "esc", "fs",
  "gs", "rs", "us", "sp"]

/-- The escapes of characters. -/
def characterEscapes : List (Nat × String) := [
  (0, "\\0"), (7, "\\a"), (8, "\\b"), (9, "\\t"), (10, "\\n"), (11, "\\v"), (12, "\\f"),
  (13, "\\r")]

/-- A number in digits of a base, filled up with zeros. -/
def filledDigits (base width n : Nat) : String :=
  let digits := String.ofList (Nat.toDigits base n)
  String.ofList (List.replicate (width - digits.length) '0') ++ digits

/-- An item of so many bytes, the lowest first. -/
def DumpType.shown (t : DumpType) (item : Bytes) : String :=
  let n := item.foldr (fun b n => n * 256 + b.toNat) 0
  let printable (n : Nat) : Bool := 0x20 ≤ n && n < 0x7F
  match t.form with
  | .character =>
    match characterEscapes.lookup n with
    | some s => s
    | none =>
      if printable n then String.ofList [Char.ofNat n] else filledDigits 8 3 n
  | .named =>
    let n := n % 128
    if n = 127 then "del" else (characterNames[n]?).getD (String.ofList [Char.ofNat n])
  | .unsigned base => if base = 10 then toString n else filledDigits base t.width n
  | .signed =>
    let half := Nat.pow 256 t.size / 2
    if n < half then toString n else "-" ++ toString (Nat.pow 256 t.size - n)

/-- A text filled up with blanks at its front. -/
def rightAligned (width : Nat) (s : String) : String :=
  String.ofList (List.replicate (width - s.length) ' ') ++ s

/-- The items of a block that may be cut short; missing bytes of the last item are zero. -/
def itemsOf (size : Nat) : (fuel : Nat) → Bytes → List Bytes
  | 0, _ => []
  | _, [] => []
  | fuel + 1, b =>
    let item := b.take size
    (item ++ List.replicate (size - item.length) 0) :: itemsOf size fuel (b.drop size)

/-- A row of a block shown in one way; the items spread over the width that all ways share. -/
def DumpType.row (t : DumpType) (blockLength sharedWidth : Nat) (block : Bytes) : String :=
  let fields := blockLength / t.size
  let items := itemsOf t.size block.length block
  let pad := sharedWidth - t.width * fields
  let cell (i : Nat) (item : Bytes) : String :=
    let before := pad * (fields - i) / fields
    let after := pad * (fields - i - 1) / fields
    rightAligned (before - after + t.width) (t.shown item)
  let cells := String.join (items.zipIdx.map fun (item, i) => cell i item)
  let missing := fields - items.length
  let visible (b : UInt8) : Char := if 0x20 ≤ b && b < 0x7F then Char.ofNat b.toNat else '.'
  let fill := String.ofList (List.replicate (missing * t.width + pad * missing / fields) ' ')
  if t.hasText then cells ++ fill ++ "  >" ++ String.ofList (block.map visible) ++ "<" else cells

/-- How the place of a block is written: the base and the width, or not at all. -/
abbrev Radix := Option (Nat × Nat)

/-- The types that a part of a text names, one behind the other, or what is wrong with it. -/
def dumpTypes (whole : Bytes) : (fuel : Nat) → Bytes → Except Bytes (List DumpType)
  | 0, _ => .ok []
  | _, [] => .ok []
  | fuel + 1, letter :: rest =>
    let sizes : List (UInt8 × Nat) :=
      [(ascii 'C', 1), (ascii 'S', 2), (ascii 'I', 4), (ascii 'L', 8)]
    let (size?, rest) : Option Nat × Bytes :=
      match rest.head?.bind (List.lookup · sizes) with
      | some n => (some n, rest.tail)
      | none =>
        let digits := rest.takeWhile isDecimal
        (if digits.isEmpty then none else some (digitsValue 10 digits), rest.drop digits.length)
    let forms : List (UInt8 × ItemForm) := [(ascii 'c', .character), (ascii 'a', .named),
      (ascii 'd', .signed), (ascii 'u', .unsigned 10), (ascii 'o', .unsigned 8),
      (ascii 'x', .unsigned 16)]
    let hasText := rest.head? = some (ascii 'z')
    let rest := if hasText then rest.tail else rest
    let strange (b : UInt8) : Bytes :=
      .ofText "invalid character " ++ inPlainQuotes [b]
        ++ .ofText " in type string " ++ inQuotes whole
    match forms.lookup letter with
    | none => .error (strange letter)
    | some form =>
      let isByte := form = .character || form = .named
      let size := if isByte then 1 else size?.getD 4
      match isByte, size? with
      | true, some n => .error (strange (ascii (Char.ofNat (48 + n % 10))))
      | _, _ =>
        if [1, 2, 4, 8].contains size then
          (dumpTypes whole fuel rest).map (⟨form, size, hasText⟩ :: ·)
        else .error (.ofText "invalid type string " ++ inQuotes whole ++ .ofText
          (";\nthis system doesn't provide a " ++ toString size ++ "-byte integral type"))

/-- The types that options ask for, or what is wrong with them. -/
def dumpTypesOf (o : Options) : Except Bytes (List DumpType) := do
  let short : List (Char × DumpType) := [
    ('a', ⟨.named, 1, false⟩), ('b', ⟨.unsigned 8, 1, false⟩), ('c', ⟨.character, 1, false⟩),
    ('d', ⟨.unsigned 10, 2, false⟩), ('i', ⟨.signed, 4, false⟩), ('l', ⟨.signed, 8, false⟩),
    ('o', ⟨.unsigned 8, 2, false⟩), ('s', ⟨.signed, 2, false⟩), ('x', ⟨.unsigned 16, 2, false⟩)]
  let types ← o.flatMapM fun (letter, value) => do
    if letter = ascii 't' then dumpTypes value (value.length + 1) value
    else return (short.filter fun x => ascii x.1 = letter).map (·.2)
  return if types.isEmpty then [⟨.unsigned 8, 2, false⟩] else types

/-- The blocks of a text, each with its place. -/
def blocksOf (length : Nat) : (fuel place : Nat) → Bytes → List (Nat × Bytes)
  | 0, _, _ => []
  | _, _, [] => []
  | fuel + 1, place, b =>
    (place, b.take length) :: blocksOf length fuel (place + length) (b.drop length)

/-- The rows of a text from a place on.  Of full blocks that are equal to the one before only a star
is shown, unless all are asked for. -/
def dumpRows (types : List DumpType) (radix : Radix) (showsAll : Bool) (length place : Nat)
    (b : Bytes) : String :=
  let address (n : Nat) : String :=
    (radix.map fun (base, width) => filledDigits base width n).getD ""
  let blank := String.ofList (List.replicate (address 0).length ' ')
  let width := (types.map fun t => (t.width + 1) * (length / t.size)).foldl max 0
  let rows (place : Nat) (block : Bytes) : String :=
    String.join (types.zipIdx.map fun (t, i) =>
      (if i = 0 then address place else blank) ++ t.row length width block ++ "\n")
  let blocks := blocksOf length (b.length + 1) place b
  let step (state : String × Option Bytes × Bool) (block : Nat × Bytes) :
      String × Option Bytes × Bool :=
    let (out, before, starred) := state
    if !showsAll && before = some block.2 && block.2.length = length then
      (if starred then out else out ++ "*\n", before, true)
    else (out ++ rows block.1 block.2, some block.2, false)
  let out := (blocks.foldl step ("", none, false)).1
  if radix.isSome then out ++ address (place + b.length) ++ "\n" else out

/-- Shows the bytes of its input or of files. -/
def dump : Given → Effect :=
  withOptions ⟨"abcdiloxsv", "AtjN", "w", [("address-radix", 'A'), ("format", 't'),
    ("skip-bytes", 'j'), ("read-bytes", 'N'), ("output-duplicates", 'v'), ("width", 'w')]⟩ 1
    fun g o words =>
  let radices : List (UInt8 × Radix) := [
    (ascii 'o', some (8, 7)), (ascii 'd', some (10, 7)), (ascii 'x', some (16, 6)),
    (ascii 'n', none)]
  let radixName := (((o.values 'A').getLast?).getD (.ofText "o")).headD 0
  let number (letter : Char) : Option Nat := (o.values letter).getLast?.bind natural?
  match radices.lookup radixName, dumpTypesOf o with
  | none, _ =>
    g.refused 1 (.ofText "invalid output address radix " ++ inPlainQuotes [radixName]
      ++ .ofText "; it must be one character from [doxn]")
  | _, .error complaint => g.refused 1 complaint
  | some radix, .ok types =>
    let e := wholeText 1 words id g
    let skipped := (number 'j').getD 0
    let b := e.stdout.drop skipped
    let b := (number 'N').elim b b.take
    let isAlone := words.isEmpty || words = [inputWord]
    let e := if isAlone && (number 'N').isSome then
        { e with stdin := g.stdin.drop (skipped + b.length) }
      else e
    let length := (((o.values 'w').getLast?.map fun w => (natural? w).getD 32)).getD 16
    let isFound (w : Bytes) : Bool := (readWord g "" g.files w).isOk
    if !words.isEmpty && !words.any isFound then { e with stdout := [] }
    else if e.stdout.length < skipped then
      { e with
        status := 1, stdout := []
        stderr := e.stderr
          ++ complaintOf g.called (.ofText "cannot skip past end of combined input") }
    else { e with stdout := .ofText (dumpRows types radix (o.has 'v') length skipped b) }

end BuildDispatch.Host.Programs
