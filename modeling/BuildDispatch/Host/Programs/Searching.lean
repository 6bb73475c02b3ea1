import BuildDispatch.Host.Programs.Basic
import BuildDispatch.Host.Regex.Reader

/-!
The search for lines that match regular expressions.
-/

namespace BuildDispatch.Host.Programs

/-- What is searched for, and what is shown of it. -/
structure Search where
  /-- Where a line matches first, from a place in it on. -/
  find : (front : Bytes) → Regex.Place → Option Regex.Match
  isInverse : Bool
  onlyMatches : Bool
  showsNumbers : Bool
  showsOffsets : Bool
  showsNames : Bool
  /-- No more lines than so many. -/
  atMost : Option Nat
  /-- How many lines are shown before and behind those that match. -/
  before : Nat
  behind : Nat

/-- The matches in a line that are not empty, one behind the other, with their places. -/
def Search.parts (s : Search) : (fuel : Nat) → (front : Bytes) → Regex.Place → List (Nat × Bytes)
  | 0, _, _ => []
  | fuel + 1, front, p =>
    match s.find front p with
    | none => []
    | some m =>
      if m.text.isEmpty then
        match m.rest with
        | [] => []
        | b :: rest => s.parts fuel (m.front ++ [b]) ⟨some b, rest, []⟩
      else
        let behind := m.front ++ m.text
        (m.front.length, m.text) :: s.parts fuel behind ⟨m.text.getLast?, m.rest, []⟩

/-- Whether a line is one that is searched for. -/
def Search.accepts (s : Search) (row : Bytes) : Bool :=
  (s.find [] ⟨none, row, []⟩).isSome != s.isInverse

/-- A line of a text with its number and its place, and whether it is searched for. -/
structure Search.Row where
  number : Nat
  offset : Nat
  text : Bytes
  isAccepted : Bool

/-- The lines of a text, given the number and the place of the first one and how many lines may
still be found.  Behind the last of those no other line that matches is looked at. -/
def Search.rows (s : Search) : (number offset : Nat) → (left : Option Nat) → List Bytes → List Row
  | _, _, _, [] => []
  | number, offset, left, text :: rest =>
    let isAccepted := s.accepts text
    if isAccepted && left = some 0 then []
    else
      let left := if isAccepted then left.map (· - 1) else left
      ⟨number, offset, text, isAccepted⟩ ::
        s.rows (number + 1) (offset + text.length + 1) left rest

/-- The lines of a text that are searched for. -/
def Search.accepted (s : Search) (b : Bytes) : List Search.Row :=
  (s.rows 1 0 s.atMost (bareLines b)).filter (·.isAccepted)

/-- What stands behind the last line that is searched for in a text; nothing, if there are less of
them than so many that the search would end. -/
def Search.remainder (s : Search) (b : Bytes) : Bytes :=
  match s.atMost with
  | none => []
  | some n =>
    let found := s.accepted b
    if found.length < n then []
    else found.getLast?.elim b fun row => b.drop (row.offset + row.text.length + 1)

/-- What is shown of a line; the mark stands between its parts. -/
def Search.shownRow (s : Search) (name : Bytes) (row : Row) : Bytes :=
  let mark := if row.isAccepted then ":" else "-"
  let front (offset : Nat) : Bytes :=
    (if s.showsNames then name ++ .ofText mark else [])
      ++ (if s.showsNumbers then Bytes.ofText (toString row.number ++ mark) else [])
      ++ if s.showsOffsets then Bytes.ofText (toString (row.offset + offset) ++ mark) else []
  if !s.onlyMatches then front 0 ++ row.text ++ Bytes.ofText "\n"
  else if s.isInverse || !row.isAccepted then []
  else
    (s.parts (row.text.length + 1) [] ⟨none, row.text, []⟩).flatMap fun (offset, text) =>
      front offset ++ text ++ Bytes.ofText "\n"

/-- What is shown of the lines of a text: those that are searched for, and some around them. -/
def Search.shown (s : Search) (name b : Bytes) : Bytes :=
  let all := s.rows 1 0 s.atMost (bareLines b)
  let found := (all.filter (·.isAccepted)).map (·.number)
  let isNear (row : Row) : Bool :=
    found.any fun n => n ≤ row.number + s.before && row.number ≤ n + s.behind
  let near := all.filter isNear
  let parted (last : Option Nat) (row : Row) : Bytes :=
    match last with
    | some n => if n + 1 < row.number && 0 < s.before + s.behind then .ofText "--\n" else []
    | none => []
  ((near.zip (none :: near.map fun row => some row.number)).flatMap fun (row, last) =>
    parted last row ++ s.shownRow name row)

/-- The options of a search. -/
def searchOptions : OptionNames := ⟨"EFGPivwxcnoqslLhHabzUryIT", "emfABCd", "", [
  ("extended-regexp", 'E'), ("fixed-strings", 'F'), ("basic-regexp", 'G'), ("perl-regexp", 'P'),
  ("ignore-case", 'i'), ("invert-match", 'v'), ("word-regexp", 'w'), ("line-regexp", 'x'),
  ("count", 'c'), ("line-number", 'n'), ("only-matching", 'o'), ("quiet", 'q'), ("silent", 'q'),
  ("no-messages", 's'), ("files-with-matches", 'l'), ("files-without-match", 'L'),
  ("no-filename", 'h'), ("with-filename", 'H'), ("regexp", 'e'), ("max-count", 'm'),
  ("file", 'f'), ("text", 'a'), ("byte-offset", 'b'), ("recursive", 'r'), ("after-context", 'A'),
  ("before-context", 'B'), ("context", 'C'), ("initial-tab", 'T')]⟩

/-- The first match of an expression that is as long as `isWhole` and `isWord` ask for. -/
def findIn (r : Regex) (isWhole isWord : Bool) (front : Bytes) (p : Regex.Place) :
    Option Regex.Match :=
  r.find? (fun start behind =>
    (!isWhole || (start.before.isNone && behind.rest.isEmpty)) &&
      (!isWord || (!start.before.any Regex.isWord && !behind.rest.head?.any Regex.isWord)))
    front p

/-- How the patterns of a search are written. -/
def writingOf (o : Options) (extended : Bool) : Regex.Writing :=
  ⟨extended || o.has 'E' || o.has 'P', o.has 'i' || o.has 'y', false, false, false⟩

/-- The expression that patterns stand for. -/
def patternsOf (w : Regex.Writing) (isFixed : Bool) (patterns : List Bytes) :
    Except String Regex := do
  let read (b : Bytes) : Except String Regex :=
    if isFixed then .ok (Regex.ofText w.same b) else Regex.ofBytes w b
  match ← patterns.mapM read with
  | [] => return .either .empty .empty
  | r :: more => return more.foldl .either r

/-- A text to search, under a name. -/
structure Search.Source where
  name : Bytes
  content : Except Bytes Bytes

/-- Whether a text holds something else than lines of text. -/
def isBinary (b : Bytes) : Bool := b.contains 0

/-- The number of lines that a word gives, with or without a sign. -/
def lineCount? (w : Bytes) : Option Int :=
  let w := w.dropWhile fun b => b = 0x20 || (0x09 ≤ b && b ≤ 0x0D)
  integer? (if w.head? = some (ascii '+') && w.tail.head? != some (ascii '-') then w.tail else w)

/-- What is wrong with the value of an option that gives a number of lines. -/
def lineCountFault? (o : UInt8 × Bytes) : Option Bytes :=
  let (letter, w) := o
  if letter = ascii 'm' then
    if (lineCount? w).isNone then some (.ofText "invalid max count") else none
  else if (Bytes.ofText "ABC").contains letter && !(lineCount? w).any (0 ≤ ·) then
    some (w ++ .ofText ": invalid context length argument")
  else none

/-- The words of a search, with options in place of those that are a hyphen and a number; `isValue`
says that the first word belongs to the option before it. -/
def withContext : (isValue : Bool) → List Bytes → List Bytes
  | _, [] => []
  | true, w :: rest => w :: withContext false rest
  | false, w :: rest =>
    let isOption := w.head? = some (ascii '-') && 1 < w.length
    let isValued (b : UInt8) : Bool := (Bytes.ofText searchOptions.valued).contains b
    if w = .ofText "--" then w :: rest
    else if isOption && w.tail.all isDecimal then
      (.ofText "-C" ++ w.tail) :: withContext false rest
    else
      w :: withContext (isOption && w.getLast?.any isValued && !w.tail.dropLast.any isValued) rest

/-- The files at and below a word, in the order of their names. -/
def filesBelow (files : Files) : (fuel : Nat) → (word : Bytes) → List Bytes
  | 0, word => [word]
  | fuel + 1, word =>
    match files.lookup word, files.resolve word with
    | .ok .directory, .ok place =>
      (files.names place).flatMap fun name =>
        filesBelow files fuel (word ++ (if word.getLast? = some slash then [] else [slash]) ++ name)
    | _, _ => [word]

/-- Prints the lines of its input or of files that match. -/
def search (extended fixed : Bool) (g : Given) : Effect :=
  let g := if extended || fixed then { g with called := .ofText "grep" } else g
  let usage : Effect := g.done 2 [] (.ofText ("Usage: grep [OPTION]... PATTERNS [FILE]...\n"
    ++ "Try 'grep --help' for more information.\n"))
  match searchOptions.among g (withContext false g.args) with
  | .error complaint =>
    { usage with stderr := complaintOf g.called complaint ++ usage.stderr }
  | .ok (o, words) =>
    let fault? (x : UInt8 × Bytes) : Option Bytes :=
      if x.1 = ascii 'f' && !isInput x.2 && (g.files.content? x.2).isNone then
        some (objection g.called "" x.2 "No such file or directory")
      else (lineCountFault? x).map (complaintOf g.called)
    let hasOption := o.has 'e' || o.has 'f'
    match o.findSome? fault? with
    | some complaint => g.done 2 [] complaint
    | none =>
      if !hasOption && words.isEmpty then usage
      else
        let inFiles := (o.values 'f').flatMap fun f =>
          bareLines (if isInput f then g.inputUnder f g.stdin else (g.files.content? f).getD [])
        let given := if hasOption then o.values 'e' else words.take 1
        let patterns := given.flatMap (splitOn (ascii '\n')) ++ inFiles
        let words := if hasOption then words else words.tail
        let w := writingOf o extended
        let isFixed := (fixed && !o.has 'E' && !o.has 'G') || o.has 'F'
        match patternsOf w isFixed patterns with
        | .error s => g.refused 2 (.ofText s)
        | .ok r =>
          let warnings : Bytes := if isFixed then [] else
            patterns.flatMap fun b => (Regex.idleRepetitions w b).flatMap fun name =>
              complaintOf g.called (.ofText ("warning: " ++ name ++ " at start of expression"))
          let find (front : Bytes) (p : Regex.Place) : Option Regex.Match :=
            if patterns.isEmpty then none else findIn r (o.has 'x') (o.has 'w') front p
          let e :=
            if !isFixed && patterns.any (Regex.hasBareClass w) then
              g.refused 2 (.ofText Regex.bareClass)
            else if amount o 'm' = some 0 && !o.has 'L' then g.done 1 [] []
            else searchFor find { g with stdin := g.leftBy (o.values 'f') } o words
          { e with stderr := warnings ++ e.stderr }
where
  /-- The number of lines that an option gives, if there is a limit. -/
  amount (o : Options) (letter : Char) : Option Nat :=
    ((o.values letter).getLast?.bind lineCount?).bind fun i =>
      if 0 ≤ i then some i.toNat else none
  /-- Searches the words and, if an option asks for it, what is below them. -/
  searchFor (find : Bytes → Regex.Place → Option Regex.Match) (g : Given) (o : Options)
      (words : List Bytes) : Effect :=
    let around := (amount o 'C').getD 0
    let here := Bytes.ofText "."
    let roots := if words.isEmpty && o.has 'r' then [here] else words
    let isSearchedBelow (w : Bytes) : Bool :=
      o.has 'r' && g.files.lookup w matches .ok .directory
    let words := if o.has 'r' then roots.flatMap (filesBelow g.files 100) else roots
    let words := if words.isEmpty && !o.has 'r' then [inputWord] else words
    let words := if roots != [here] || !g.args.all (· != here) then words
      else words.map fun w => if (Bytes.ofText "./").isPrefixOf w then w.drop 2 else w
    look g o ⟨find, o.has 'v', o.has 'o', o.has 'n', o.has 'b',
      !o.has 'h' && (o.has 'H' || 1 < roots.length || roots.any isSearchedBelow),
      amount o 'm', (amount o 'B').getD around, (amount o 'A').getD around⟩ words
  /-- Searches what the words name. -/
  look (g : Given) (o : Options) (s : Search) (words : List Bytes) : Effect :=
    let nameOf (w : Bytes) : Bytes := if w = inputWord then .ofText "(standard input)" else w
    let isHidden (b : Bytes) : Bool := isBinary b && !o.has 'a'
    let rowEnds (b : Bytes) : Bytes :=
      if isHidden b then b.map fun x => if x = 0 then 0x0A else x else b
    let accepted (b : Bytes) : List Search.Row := s.accepted (rowEnds b)
    let isQuiet := o.has 'q'
    let isListed (b : Bytes) : Bool := (accepted b).isEmpty == o.has 'L'
    let listsNames := o.has 'l' || o.has 'L'
    let givesBack (b : Bytes) : Bool :=
      g.inputFile.isSome && !isQuiet && !listsNames && !isHidden b
    let (sources, stdin) := words.foldl (fun (sources, left) w =>
      let content := contentOf { g with stdin := left } g.files w
      let source : Search.Source :=
        ⟨nameOf w, content.mapError fun e => objection g.called "" w e.reason⟩
      let rest := if givesBack left then s.remainder left else []
      (sources ++ [source], if g.usesUp w then rest else left)) (([] : List Search.Source), g.stdin)
    let shown (name b : Bytes) : Bytes :=
      if isQuiet then []
      else if listsNames then if isListed b then name ++ .ofText "\n" else []
      else if o.has 'c' then
        (if s.showsNames then name ++ .ofText ":" else [])
          ++ .ofText (toString (accepted b).length ++ "\n")
      else if isHidden b then []
      else s.shown name b
    let complaint (name b : Bytes) : Bytes :=
      let isPlain := !isQuiet && !listsNames && !o.has 'c'
      if isPlain && isHidden b && !(accepted b).isEmpty then
        complaintOf g.called (name ++ .ofText ": binary file matches")
      else []
    let hasTrouble := sources.any fun x => !x.content.isOk
    let isHit (x : Search.Source) : Bool := match x.content with
      | .ok b => !(accepted b).isEmpty
      | .error _ => false
    let isGood := sources.any isHit
    let out := sources.flatMap fun x => match x.content with
      | .ok b => shown x.name b
      | .error _ => []
    let visited := if isQuiet then sources.takeWhile (!isHit ·) else sources
    let complaints := visited.flatMap fun x => match x.content with
      | .ok b => complaint x.name b
      | .error c => if o.has 's' then [] else c
    ⟨if isGood && (isQuiet || !hasTrouble) then 0 else if hasTrouble then 2 else 1, out,
      complaints, stdin, g.files⟩

end BuildDispatch.Host.Programs
