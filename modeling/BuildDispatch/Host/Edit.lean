import BuildDispatch.Host.Regex.Reader

/-!
Edits of a text, line by line.  An edit is a list of steps, each of which says for which lines it is
and what it does with the line at hand.
-/

namespace BuildDispatch.Host.Edit

/-- A place among the lines of a text. -/
inductive Address where
  | line (number : Nat)
  /-- Every so many lines from the first one on. -/
  | every (first step : Nat)
  | last
  /-- Lines in which an expression matches; without an expression, the one that was used last. -/
  | matching (r : Option Regex)

/-- Where a range of lines ends. -/
inductive RangeEnd where
  | upTo (a : Address)
  /-- So many lines behind the first one. -/
  | behind (count : Nat)
  /-- At the next line behind the first one whose number is a multiple. -/
  | multiple (factor : Nat)

/-- The lines that a step is for; all of them, if it has no address. -/
structure Selection where
  first : Option Address
  last : Option RangeEnd
  isInverse : Bool

/-- A change of letters. -/
inductive Case where
  | upper
  | lower
  deriving DecidableEq

/-- A part of what takes the place of a match. -/
inductive Part where
  | text (b : Bytes)
  /-- The text of a group, or of the whole match under the number zero. -/
  | group (number : Nat)
  /-- All letters that follow are changed, or from now on no longer. -/
  | letters (c : Option Case)
  /-- The next letter is changed. -/
  | letter (c : Case)

/-- A replacement of matches. -/
structure Substitution where
  /-- The expression; without one, that which was used last. -/
  regex : Option Regex
  parts : List Part
  /-- The number of the first match that is replaced. -/
  first : Nat
  /-- Whether those behind it are replaced too. -/
  isGlobal : Bool
  prints : Bool
  file : Option Bytes

/-- Where text goes that is put beside a line. -/
inductive Side where
  | front
  | back
  | inPlace
  deriving DecidableEq

/-- When a step goes on elsewhere. -/
inductive Condition where
  | always
  /-- Something has been replaced since the last jump of this kind. -/
  | replaced
  | notReplaced
  deriving DecidableEq

/-- What a step does. -/
inductive Action where
  /-- The steps up to the one that closes are for these lines alone. -/
  | opening
  | closing
  | label (name : Bytes)
  /-- Goes on behind a label, or without one at the end. -/
  | jump (when : Condition) (label : Bytes)
  | text (side : Side) (b : Bytes)
  | readFile (path : Bytes)
  | readLine (path : Bytes)
  | writeFile (path : Bytes) (onlyFirst : Bool)
  | delete (onlyFirst : Bool)
  | print (onlyFirst : Bool)
  | number
  | name
  | clear
  | list (width : Option Nat)
  | next (joined : Bool)
  | hold (joined : Bool)
  | get (joined : Bool)
  | exchange
  | quit (status : Nat) (silently : Bool)
  | substitute (s : Substitution)
  | exchangeBytes (pairs : List (UInt8 × UInt8))

/-- A step of an edit. -/
structure Step where
  lines : Selection
  action : Action

/-- A byte with its letter changed. -/
def Case.apply (c : Case) (b : UInt8) : UInt8 :=
  match c with
  | .upper => if ascii 'a' ≤ b && b ≤ ascii 'z' then b - 32 else b
  | .lower => if ascii 'A' ≤ b && b ≤ ascii 'Z' then b + 32 else b

/-- What takes the place of a match. -/
def expanded (m : Regex.Match) (parts : List Part) : Bytes :=
  go none none parts
where
  /-- The text of parts, given how all letters and how the next one are changed. -/
  go (all one : Option Case) : List Part → Bytes
    | [] => []
    | .letters c :: parts => go c none parts
    | .letter c :: parts => go all (some c) parts
    | .text b :: parts => put all one b ++ go all (if b.isEmpty then one else none) parts
    | .group n :: parts =>
      let b := if n = 0 then m.text else (m.groups.lookup n).getD []
      put all one b ++ go all (if b.isEmpty then one else none) parts
  /-- A text with its letters changed. -/
  put (all one : Option Case) (b : Bytes) : Bytes :=
    let b := match all with
      | some c => b.map c.apply
      | none => b
    match one, b with
    | some c, x :: r => c.apply x :: r
    | _, b => b

/-- Replaces matches from a place on: the text, and whether anything was replaced.  `number` counts
the matches, and `behindMatch` says that the place is the end of one, where no empty match
counts. -/
def Substitution.apply (s : Substitution) (r : Regex) : (fuel number : Nat) →
    (behindMatch : Bool) → Regex.Place → Bytes × Bool
  | 0, _, _, p => (p.rest, false)
  | fuel + 1, number, behindMatch, p =>
    let counts (start behind : Regex.Place) : Bool :=
      !(behindMatch && start.rest.length = p.rest.length
        && behind.rest.length = p.rest.length)
    match r.find? counts [] p with
    | none => (p.rest, false)
    | some m =>
      let isWanted := number = s.first || (s.isGlobal && s.first < number)
      let text := if isWanted then expanded m s.parts else m.text
      if isWanted && !s.isGlobal then (m.front ++ text ++ m.rest, true)
      else
        let before := ((m.front ++ m.text).getLast?).or p.before
        let (out, more) := s.apply r fuel (number + 1) true ⟨before, m.rest, []⟩
        (m.front ++ text ++ out, isWanted || more)

end BuildDispatch.Host.Edit
