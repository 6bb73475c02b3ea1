import BuildDispatch.Host.Files
import BuildDispatch.Host.Pattern

/-!
Values without the part at one end that a pattern stands for.  All arguments make one value, in
which they stand in a row with zero bytes between them; a part that a pattern stands for never
reaches over the end of an argument, but it is counted from the end of the whole row.
-/

namespace BuildDispatch.Host

/-- What may be taken away from a value. -/
structure Trimming where
  pattern : Pattern
  /-- The bytes that have a guard in front while they stand in the row. -/
  isGuarded : UInt8 → Bool

namespace Trimming

/-- A row of texts. -/
def row (texts : List Bytes) : Bytes := [0].intercalate texts

/-- The text from a place in a row on. -/
def textAt (row : Bytes) : Bytes := row.takeWhile (· != 0)

/-- Bytes with their guards. -/
def guarded (t : Trimming) (b : Bytes) : Bytes :=
  b.flatMap fun x => if t.isGuarded x then [0x81, x] else [x]

/-- The pattern with a backslash in front of what stands for itself. -/
def written (t : Trimming) : Bytes :=
  t.pattern.flatMap fun x => if x.2 && t.isGuarded x.1 then [0x5C, x.1] else [x.1]

/-- The row in which parts are sought from the back on.  If the first text has guards, it is there a
second time without them, behind the pattern, so that this copy is gone through first. -/
def memory (t : Trimming) (first : Bytes) (row : Bytes) : Bytes :=
  let whole := t.guarded row
  if first.any t.isGuarded then whole ++ 0 :: t.written ++ 0 :: first else whole

/-- The least number up to the length of a row that has a property. -/
def least? (row : Bytes) (p : Nat → Bool) : Option Nat := (List.range (row.length + 1)).find? p

/-- The last bytes of a row, so many. -/
def lastOf (row : Bytes) (n : Nat) : Bytes := row.drop (row.length - n)

/-- Texts without the shortest or longest part at the front of the first one. -/
def front (t : Trimming) (longest : Bool) : List Bytes → List Bytes
  | [] => []
  | first :: rest =>
    let all := row (first :: rest)
    if longest then
      let memory := t.memory first all
      let start := if first.any t.isGuarded then memory.length - first.length else 0
      match least? all fun n => start + n ≤ memory.length &&
          t.pattern.accepts (textAt ((memory.drop start).take (memory.length - start - n))) with
      | some n => splitOn 0 (lastOf all n)
      | none => first :: rest
    else
      match least? first fun n => t.pattern.accepts (first.take n) with
      | some n => first.drop n :: rest
      | none => first :: rest

/-- Texts without the shortest part at the back of the last one, or the longest at the back of the
first, and what is behind it. -/
def back (t : Trimming) (longest : Bool) : List Bytes → List Bytes
  | [] => []
  | first :: rest =>
    if longest then
      match least? first fun n => t.pattern.accepts (first.drop n) with
      | some n => [first.take n]
      | none => first :: rest
    else
      let all := row (first :: rest)
      match least? all fun n => t.pattern.accepts (textAt (lastOf (t.memory first all) n)) with
      | some n => splitOn 0 (all.take (all.length - n))
      | none => first :: rest

end Trimming

end BuildDispatch.Host
