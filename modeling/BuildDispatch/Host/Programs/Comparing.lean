import BuildDispatch.Host.Programs.Basic

/-!
Programs that compare two texts, byte by byte or line by line.
-/

namespace BuildDispatch.Host.Programs

/-- How two texts compare. -/
inductive Comparison where
  | equal
  /-- They differ at a byte, counted from one on, in a line. -/
  | differ (byte row : Nat)
  /-- One of them, the first or the second, ends behind so many bytes of the other. -/
  | ends (isFirst : Bool) (byte row : Nat) (endsLine : Bool)
  deriving Repr, DecidableEq

/-- Compares two texts from a byte in a line on; `endsLine` says whether the byte before ended a
line. -/
def compareTexts (byte row : Nat) (endsLine : Bool) : Bytes → Bytes → Comparison
  | [], [] => .equal
  | [], _ :: _ => .ends true (byte - 1) row endsLine
  | _ :: _, [] => .ends false (byte - 1) row endsLine
  | a :: r, b :: s =>
    if a = b then
      let isEnd := a = 0x0A
      compareTexts (byte + 1) (if isEnd then row + 1 else row) isEnd r s
    else .differ byte row

/-- The report of a comparison of the texts of two names. -/
def Comparison.report (called first second : Bytes) : Comparison → Bytes × Bytes
  | .equal => ([], [])
  | .differ byte row =>
    (first ++ .ofText " " ++ second
      ++ line (" differ: char " ++ toString byte ++ ", line " ++ toString row), [])
  | .ends isFirst byte row endsLine =>
    let name := if isFirst then first else second
    let place := if byte = 0 then " which is empty"
      else if endsLine then " after byte " ++ toString byte ++ ", line " ++ toString (row - 1)
      else " after byte " ++ toString byte ++ ", in line " ++ toString row
    ([], complaintOf called (.ofText "EOF on " ++ name ++ .ofText place))

/-- Compares two texts byte by byte; words behind their names say how many bytes of each do not
count. -/
def compareFiles (g : Given) : Effect :=
  let names : OptionNames := ⟨"s", "", "", [("quiet", 's'), ("silent", 's')]⟩
  let misused (complaint : Bytes) : Effect :=
    g.done 2 [] (complaintOf g.called complaint ++ complaintOf g.called (hint g.called))
  match names.among g g.args with
  | .error complaint => misused complaint
  | .ok (o, words) =>
    let skips := (words.drop 2).take 2
    match words, skips.find? fun w => (natural? w).isNone, words[4]? with
    | [], _, _ => misused (.ofText "missing operand after " ++ inQuotes g.called)
    | _, some w, _ => misused (.ofText "invalid --ignore-initial value '" ++ w ++ .ofText "'")
    | _, _, some extra => misused (.ofText "extra operand " ++ inQuotes extra)
    | first :: rest, none, none =>
      let skip (i : Nat) : Nat := (skips[i]?.bind natural?).getD 0
      let second := rest.headD inputWord
      let text (word : Bytes) : Except Bytes Bytes :=
        (contentOf g g.files word).mapError fun e => objection g.called "" word e.reason
      match text first, text second with
      | .error complaint, _ | _, .error complaint =>
        g.done 2 [] (if o.has 's' then [] else complaint)
      | .ok a, .ok b =>
        let comparison := compareTexts 1 1 false (a.drop (skip 0)) (b.drop (skip 1))
        let (out, complaint) :=
          if o.has 's' then ([], []) else comparison.report g.called first second
        let e := g.done (if comparison = .equal then 0 else 1) out complaint
        if first = second then e else { e with stdin := g.leftBy [first, second] }

/-- What comes of a text whose lines are compared with those of another. -/
structure Merging where
  /-- The line before the next one. -/
  last : Option Bytes
  rest : List Bytes
  /-- Whether a line has been found that stands behind a greater one. -/
  isAstray : Bool

/-- Goes on to the next line.  The order counts as soon as some line has no equal in the other
text; at the end that of the last two lines is looked at again. -/
def Merging.next (m : Merging) (isUnpaired : Bool) : Merging :=
  match m.rest with
  | [] => m
  | row :: rest =>
    let isGreater := match rest, m.last with
      | following :: _, _ => following < row
      | [], some last => row < last
      | [], none => false
    ⟨some row, rest, m.isAstray || (isUnpaired && isGreater)⟩

/-- The lines of two texts in order, merged: those of the first alone, of the second alone, and of
both, each with the number of its column.  A text that is not in order is named by a column beyond
these where that is found. -/
def merged : (fuel : Nat) → (isUnpaired : Bool) → Merging → Merging → List (Nat × Bytes)
  | 0, _, _, _ => []
  | fuel + 1, isUnpaired, m, n =>
    let go (column : Nat) (row : Bytes) : List (Nat × Bytes) :=
      let isUnpaired := isUnpaired || column != 3
      let after := if column = 2 then m else m.next isUnpaired
      let beside := if column = 1 then n else n.next isUnpaired
      let strays := (if after.isAstray && !m.isAstray then [(4, ([] : Bytes))] else [])
        ++ if beside.isAstray && !n.isAstray then [(5, ([] : Bytes))] else []
      (column, row) :: strays ++ merged fuel isUnpaired after beside
    match m.rest, n.rest with
    | [], [] => []
    | a :: _, [] => go 1 a
    | [], b :: _ => go 2 b
    | a :: _, b :: _ => if a = b then go 3 a else if a < b then go 1 a else go 2 b

/-- Says which lines two texts in order have in common, and complains of one that is not in
order. -/
def common : Given → Effect := withOptions ⟨"123z", "", "", [("zero-terminated", 'z')]⟩ 1
    fun g o words =>
  match words with
  | [] => g.misused 1 (.ofText "missing operand")
  | [only] => g.misused 1 (.ofText "missing operand after " ++ inQuotes only)
  | _ :: _ :: extra :: _ => g.misused 1 (.ofText "extra operand " ++ inQuotes extra)
  | [first, second] =>
    let text (word : Bytes) : Except Bytes Bytes := readWord g "" g.files word
    match text first, text second with
    | .error complaint, _ | _, .error complaint => g.done 1 [] complaint
    | .ok a, .ok b =>
      let ending : UInt8 := if o.has 'z' then 0 else 0x0A
      let (l, m) := (rowsBy ending a, rowsBy ending b)
      let isHidden (column : Nat) : Bool := o.has (Char.ofNat (48 + column))
      let indent (column : Nat) : Nat :=
        ((List.range column).filter fun c => 0 < c && !isHidden c).length
      let all := merged (l.length + m.length + 1) false ⟨none, l, false⟩ ⟨none, m, false⟩
      let out := all.flatMap fun (column, row) =>
        if isHidden column || 3 < column then []
        else List.replicate (indent column) 0x09 ++ row ++ [ending]
      let strays := (all.filter fun x => 3 < x.1).map fun x =>
        complaintOf g.called (.ofText ("file " ++ toString (x.1 - 3) ++ " is not in sorted order"))
      let complaints := if strays.isEmpty then []
        else strays.flatten ++ complaintOf g.called (.ofText "input is not in sorted order")
      { g.done (if strays.isEmpty then 0 else 1) out complaints with stdin := g.leftBy words }

end BuildDispatch.Host.Programs
