/-!
How much one word looks like another, as a number between zero and one, and the word of a list that
looks most like one that was mistyped.
-/

namespace BuildDispatch.Text.Likeness

/-- Takes the first free place with a character between two bounds. -/
def takePlace? (c : Char) (low high : Nat) : (index : Nat) → List (Char × Bool) →
    Option (List (Char × Bool))
  | _, [] => none
  | i, (d, taken) :: r =>
    if low ≤ i && i < high && !taken && d == c then some ((d, true) :: r)
    else (takePlace? c low high (i + 1) r).map ((d, taken) :: ·)

/-- The characters of a word that find a place in another one, at most `reach` away from their own,
and the other word with its places taken. -/
def matched (reach : Nat) : (index : Nat) → List Char → List (Char × Bool) →
    List Char × List (Char × Bool)
  | _, [], places => ([], places)
  | i, c :: r, places =>
    match takePlace? c (i - reach) (i + reach + 1) 0 places with
    | some places =>
      let (found, places) := matched reach (i + 1) r places
      (c :: found, places)
    | none => matched reach (i + 1) r places

/--
How alike two words are: the mean of the parts of each that is matched in the other, less than half
a word away, and of the part of what is matched that stands in the same order.
-/
def likeness (a b : List Char) : Float :=
  let reach := max a.length b.length / 2 - 1
  let (own, places) := matched reach 0 a (b.map (·, false))
  let other := (places.filter (·.2)).map (·.1)
  let common := own.length
  if common = 0 then 0
  else
    let displaced := ((own.zip other).filter fun p => p.1 != p.2).length / 2
    let share (part whole : Nat) : Float := Float.ofNat part / Float.ofNat whole
    (share common a.length + share common b.length + share (common - displaced) common) / 3

/-- Words that are less alike than this are not taken for one another. -/
def threshold : Float := 0.7

/-- The word of a list that looks most like a word, if one does; of equals the last one. -/
def nearest? (word : String) (candidates : List String) : Option String :=
  let step (best : Option (String × Float)) (candidate : String) : Option (String × Float) :=
    let x := likeness word.toList candidate.toList
    let isBest := match best with
      | some (_, y) => y <= x
      | none => true
    if threshold < x && isBest then some (candidate, x) else best
  (candidates.foldl step none).map (·.1)

end BuildDispatch.Text.Likeness
