import BuildDispatch.Host.Programs.Basic

/-!
Commands made from an input: `xargs` puts the items of its input behind the words of a command, or
in the place of a mark among them.
-/

namespace BuildDispatch.Host.Programs

/-- The commands that are to be run one after the other. -/
structure Gathering where
  commands : List (List Bytes)
  /-- Whether each is shown before it runs. -/
  shows : Bool
  /-- What is said against the input. -/
  complaint : Bytes

/-- An item under way: its bytes so far if it has begun, the quote that is open, and the items
before it. -/
structure Items where
  finished : List (List Bytes)
  /-- The items of the present line. -/
  row : List Bytes
  last : Option Bytes
  quote : Option UInt8

/-- Finishes the last item. -/
def Items.close (s : Items) : Items := { s with row := s.row ++ s.last.toList, last := none }

/-- Extends the last item. -/
def Items.extend (s : Items) (b : UInt8) : Items := { s with last := some (s.last.getD [] ++ [b]) }

/-- Finishes the present line. -/
def Items.endRow (s : Items) : Items :=
  let s := s.close
  if s.row.isEmpty then s else { s with finished := s.finished ++ [s.row], row := [] }

/-- Reads items line by line: quotes and backslashes protect blanks, unless whole lines are wanted.
Gives the items of each line, and what is wrong with the input if anything is. -/
def readItems (wholeLines : Bool) (s : Items) : Bytes → List (List Bytes) × Option Bytes
  | [] =>
    match s.quote with
    | none => (s.endRow.finished, none)
    | some q => unmatched s q
  | b :: rest =>
    match s.quote with
    | some q =>
      if b = q then readItems wholeLines { s with quote := none } rest
      else if b = 0x0A then unmatched s q
      else readItems wholeLines (s.extend b) rest
    | none =>
      if b = 0x0A then readItems wholeLines s.endRow rest
      else if b = ascii '\'' || b = ascii '"' then
        readItems wholeLines { s with quote := some b, last := some (s.last.getD []) } rest
      else if b = ascii '\\' then
        match rest with
        | [] => readItems wholeLines (s.extend b) []
        | c :: rest => readItems wholeLines (s.extend c) rest
      else if b = 0x20 || b = 0x09 then
        let s := if !wholeLines then s.close else if s.last.isSome then s.extend b else s
        readItems wholeLines s rest
      else readItems wholeLines (s.extend b) rest
where
  /-- What is left of an input with an open quote. -/
  unmatched (s : Items) (q : UInt8) : List (List Bytes) × Option Bytes :=
    let kind := if q = ascii '"' then "double" else "single"
    ({ s with last := none }.endRow.finished, some (.ofText ("unmatched " ++ kind
      ++ " quote; by default quotes are special to xargs unless you use the -0 option")))

/-- A list in pieces of so many. -/
def piecesOf {α : Type} (count : Nat) : (fuel : Nat) → List α → List (List α)
  | 0, _ => []
  | _, [] => []
  | fuel + 1, l => l.take count :: piecesOf count fuel (l.drop count)

/-- A text with each place of a mark taken by another text. -/
def fillMark (mark text : Bytes) : (fuel : Nat) → Bytes → Bytes
  | 0, b => b
  | _, [] => []
  | fuel + 1, b :: rest =>
    if mark.isPrefixOf (b :: rest) then
      text ++ fillMark mark text fuel ((b :: rest).drop mark.length)
    else b :: fillMark mark text fuel rest

/-- The options of `xargs`. -/
def gatheringNames : OptionNames where
  plain := "0rtx"
  valued := "ILnsPd"
  attached := "il"
  long := [("null", '0'), ("no-run-if-empty", 'r'), ("verbose", 't'), ("max-args", 'n'),
    ("max-lines", 'L'), ("replace", 'i'), ("delimiter", 'd'), ("max-procs", 'P')]

/-- The byte that a text names as a delimiter. -/
def delimiterOf (b : Bytes) : UInt8 :=
  let named : List (Bytes × UInt8) :=
    [(.ofText "\\n", 0x0A), (.ofText "\\t", 0x09), (.ofText "\\0", 0)]
  (named.lookup b).getD (b.headD 0)

/-- The commands that words ask for on an input, or a complaint. -/
def gatheringOf (called : Bytes) (args : List Bytes) (stdin : Bytes) : Except Bytes Gathering := do
  let (o, words) ← (gatheringNames.readFront (args.length + 1) args).mapError (misuse called)
  let words := if words.isEmpty then [.ofText "echo"] else words
  let limit (letter : Char) : Except Bytes (Option Nat) :=
    match (o.values letter).getLast? with
    | none => .ok none
    | some value =>
      match natural? value with
      | some (n + 1) => .ok (some (n + 1))
      | some 0 => .error (misuse called (.ofText ("value 0 for -" ++ letter.toString
          ++ " option should be >= 1")))
      | none => .error (misuse called (.ofText "invalid number \"" ++ value
          ++ .ofText ("\" for -" ++ letter.toString ++ " option")))
  let count ← limit 'n'
  let rows ← limit 'L'
  let mark := ((o.values 'I').getLast?).or ((o.values 'i').getLast?.map fun value =>
    if value.isEmpty then .ofText "\x7b\x7d" else value)
  let separator : Option UInt8 :=
    if o.has '0' then some 0 else (o.values 'd').getLast?.map delimiterOf
  let (rowsOfItems, complaint) : List (List Bytes) × Option Bytes :=
    match separator with
    | some b => ((rowsBy b stdin).map ([·]), none)
    | none => readItems mark.isSome ⟨[], [], none, none⟩ stdin
  let commands : List (List Bytes) :=
    match mark with
    | some mark =>
      rowsOfItems.flatten.map fun item =>
        (words.take 1) ++ (words.drop 1).map fun w => fillMark mark item (w.length + 1) w
    | none =>
      let groups := match count, rows with
        | some n, _ => piecesOf n (rowsOfItems.flatten.length) rowsOfItems.flatten
        | none, some n => (piecesOf n rowsOfItems.length rowsOfItems).map List.flatten
        | none, none => if rowsOfItems.isEmpty then [] else [rowsOfItems.flatten]
      let groups := if groups.isEmpty && !o.has 'r' then [[]] else groups
      groups.map (words ++ ·)
  return ⟨commands, o.has 't', (complaint.map (complaintOf called)).getD []⟩

/-- How a command ended that was made from an input: the status of the whole so far, what is said
about it, and whether no other is run. -/
def gatheringStatus (called program : Bytes) (before : Nat) : (status : Nat) → Nat × Bytes × Bool
  | 0 => (before, [], false)
  | 255 =>
    (124, complaintOf called (program ++ .ofText ": exited with status 255; aborting"), true)
  | _ => (123, [], false)

end BuildDispatch.Host.Programs
