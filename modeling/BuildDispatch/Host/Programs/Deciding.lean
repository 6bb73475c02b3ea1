import BuildDispatch.Host.Condition
import BuildDispatch.Host.Programs.Basic

/-!
A program that says by its status whether a condition on files, texts and numbers holds.
-/

namespace BuildDispatch.Host.Programs.Deciding

open Condition (Operator operator?)

/-- What is left of the words, and the word before them. -/
structure Words where
  before : Bytes
  rest : List Bytes

/-- The words without the first one. -/
def Words.next (w : Words) : Words := ⟨w.rest.headD w.before, w.rest.tail⟩

/-- A word is missing. -/
def missing {α : Type} (w : Words) : Except Bytes α :=
  .error (.ofText "missing argument after " ++ inQuotes (w.rest.getLastD w.before))

/-- The number that a word must spell. -/
def integer (w : Bytes) : Except Bytes Int :=
  match Condition.decimal? w with
  | some n => .ok n
  | none => .error (.ofText "invalid integer " ++ inQuotes w)

/-- The operator between two operands that a word spells; the order of texts is none of them. -/
def between? (w : Bytes) : Option Operator :=
  if w = Bytes.ofText "==" then some .equal else (operator? w).filter fun
    | .before | .after => false
    | o => o.isBinary

/-- A test of two operands. -/
def ofTwo (files : Files) (o : Operator) (a b : Bytes) : Except Bytes Bool :=
  match o with
  | .numbers holds => do return holds (← integer a) (← integer b)
  | o => Condition.holdsOfTwo files o a b

/-- A test of one operand by the word of its operator. -/
def ofOne (files : Files) (name a : Bytes) : Except Bytes Bool :=
  match operator? name with
  | some (.unary 't') => do return (← integer a) < 0
  | some (.unary c) => Condition.holdsOfOne files c a
  | _ => .error (inQuotes name ++ .ofText ": unary operator expected")

/-- Whether a word looks like the operator of one operand. -/
def isLetterWord (w : Bytes) : Bool := w.head? = some (ascii '-') && w.length = 2

mutual

/-- Conditions joined by `-o`. -/
def either (files : Files) : (fuel : Nat) → Words → Except Bytes (Bool × Words)
  | 0, w => missing w
  | fuel + 1, w => do
    let (a, w) ← both files fuel w
    if w.rest.head? = some (Bytes.ofText "-o") then
      let (b, w) ← either files fuel w.next
      return (a || b, w)
    else return (a, w)

/-- Conditions joined by `-a`. -/
def both (files : Files) : (fuel : Nat) → Words → Except Bytes (Bool × Words)
  | 0, w => missing w
  | fuel + 1, w => do
    let (a, w) ← single files fuel w
    if w.rest.head? = some (Bytes.ofText "-a") then
      let (b, w) ← both files fuel w.next
      return (a && b, w)
    else return (a, w)

/-- One condition, perhaps negated. -/
def single (files : Files) : (fuel : Nat) → Words → Except Bytes (Bool × Words)
  | 0, w => missing w
  | fuel + 1, w =>
    match w.rest with
    | [] => missing w
    | a :: rest =>
      if a = Bytes.ofText "!" then do
        let (b, w) ← single files fuel w.next
        return (!b, w)
      else if a = Bytes.ofText "(" && !rest.isEmpty then do
        let (b, w) ← either files fuel w.next
        match w.rest with
        | [] => .error (inQuotes (.ofText ")") ++ .ofText " expected")
        | c :: _ =>
          if c = Bytes.ofText ")" then return (b, w.next)
          else .error (inQuotes (.ofText ")") ++ .ofText " expected, found " ++ inQuotes c)
      else
        match rest with
        | o :: b :: _ =>
          match between? o with
          | some op => do return (← ofTwo files op a b, w.next.next.next)
          | none => ofLetters w a o
        | o :: [] => ofLetters w a o
        | [] => .ok (!a.isEmpty, w.next)
where
  /-- A condition that may begin with the operator of one operand. -/
  ofLetters (w : Words) (a o : Bytes) : Except Bytes (Bool × Words) :=
    if isLetterWord a then do return (← ofOne files a o, w.next.next)
    else .ok (!a.isEmpty, w.next)

end

/-- A condition of two words. -/
def ofTwoWords (files : Files) (a b : Bytes) : Except Bytes Bool :=
  if a = Bytes.ofText "!" then .ok b.isEmpty
  else if isLetterWord a then ofOne files a b
  else missing ⟨b, []⟩

/-- A condition of three words. -/
def ofThreeWords (files : Files) (a b c : Bytes) : Except Bytes Bool :=
  match between? b with
  | some op => ofTwo files op a c
  | none =>
    if a = Bytes.ofText "!" then do return !(← ofTwoWords files b c)
    else if a = Bytes.ofText "(" && c = Bytes.ofText ")" then .ok !b.isEmpty
    else if b = Bytes.ofText "-a" then .ok (!a.isEmpty && !c.isEmpty)
    else if b = Bytes.ofText "-o" then .ok (!a.isEmpty || !c.isEmpty)
    else .error (inQuotes b ++ .ofText ": binary operator expected")

/-- Whether a condition holds, or what is wrong with it. -/
def holds (files : Files) (words : List Bytes) : Except Bytes Bool :=
  match words with
  | [] => .ok false
  | [a] => .ok !a.isEmpty
  | [a, b] => ofTwoWords files a b
  | [a, b, c] => ofThreeWords files a b c
  | [a, b, c, d] =>
    if a = Bytes.ofText "!" then do return !(← ofThreeWords files b c d)
    else if a = Bytes.ofText "(" && d = Bytes.ofText ")" then ofTwoWords files b c
    else whole words
  | words => whole words
where
  /-- A condition by its grammar alone; nothing may follow it. -/
  whole (words : List Bytes) : Except Bytes Bool := do
    let (b, w) ← either files (4 * words.length + 4) ⟨[], words⟩
    match w.rest with
    | [] => return b
    | extra :: _ => throw (.ofText "extra argument " ++ inQuotes extra)

end BuildDispatch.Host.Programs.Deciding

namespace BuildDispatch.Host.Programs

/-- Says by its status whether a condition holds; the short name wants a bracket at the end. -/
def decideCondition (isBracket : Bool) (g : Given) : Effect :=
  let closing := Bytes.ofText "]"
  if isBracket && g.args.getLast? != some closing then
    g.refused 2 (.ofText "missing " ++ inQuotes closing)
  else
    match Deciding.holds g.files (if isBracket then g.args.dropLast else g.args) with
    | .ok b => g.done (if b then 0 else 1) [] []
    | .error complaint => g.refused 2 complaint

end BuildDispatch.Host.Programs
