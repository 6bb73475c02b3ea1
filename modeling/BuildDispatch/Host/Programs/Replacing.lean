import BuildDispatch.Host.Pattern
import BuildDispatch.Host.Programs.Basic

/-!
A program that replaces bytes by others, takes them away, or draws runs of them together.
-/

namespace BuildDispatch.Host.Programs

/-- A part of a set of bytes as it is written. -/
inductive Bunch where
  | bytes (l : Bytes)
  /-- A class, by its name. -/
  | named (name : Bytes)
  /-- A byte so many times; without a number, as often as there is room. -/
  | copies (b : UInt8) (count : Option Nat)

/-- All bytes. -/
def allBytes : Bytes := (List.range 256).map UInt8.ofNat

/-- The bytes of a class. -/
def classBytes (name : Bytes) : Bytes :=
  if name = .ofText "cntrl" then allBytes.filter fun b => b < 0x20 || b = 0x7F
  else if name = .ofText "print" then allBytes.filter fun b => 0x20 ≤ b && b < 0x7F
  else if name = .ofText "graph" then allBytes.filter fun b => 0x20 < b && b < 0x7F
  else allBytes.filter (Pattern.inClass name)

/-- The names of the classes. -/
def classNames : List Bytes := ["alnum", "alpha", "blank", "cntrl", "digit", "graph", "lower",
  "print", "punct", "space", "upper", "xdigit"].map Bytes.ofText

/-- The first byte of a text with its escapes, and what follows. -/
def takeEscaped : Bytes → Option (UInt8 × Bytes)
  | [] => none
  | 0x5C :: e :: r =>
    if isOctal e then some (takeOctal 3 (e :: r))
    else
      match if e = ascii 'e' then none else letterEscape? e with
      | some b => some (b, r)
      | none => some (e, r)
  | b :: r => some (b, r)

/-- The parts of a set as it is written, or what is wrong with it. -/
def bunches : (fuel : Nat) → Bytes → Except Bytes (List Bunch)
  | 0, _ => .ok []
  | _, [] => .ok []
  | fuel + 1, b => do
    let colon := ascii ':'
    let asClass : Option (Bytes × Bytes) :=
      match b with
      | 0x5B :: 0x3A :: r =>
        let name := r.takeWhile (· != colon)
        if (Bytes.ofText ":]").isPrefixOf (r.drop name.length) then
          some (name, r.drop (name.length + 2))
        else none
      | _ => none
    let asCopies : Option (UInt8 × Option Nat × Bytes) :=
      match b with
      | 0x5B :: r =>
        match takeEscaped r with
        | some (x, 0x2A :: r) =>
          let digits := r.takeWhile isDecimal
          let count := digitsValue (if digits.head? = some (ascii '0') then 8 else 10) digits
          if (r.drop digits.length).head? = some (ascii ']') then
            some (x, if count = 0 then none else some count, r.drop (digits.length + 1))
          else none
        | _ => none
      | _ => none
    match asClass, asCopies with
    | some (name, rest), _ =>
      if classNames.contains name then return .named name :: (← bunches fuel rest)
      else throw (.ofText "invalid character class " ++ inQuotes name)
    | none, some (x, count, rest) => return .copies x count :: (← bunches fuel rest)
    | none, none =>
      match takeEscaped b with
      | none => return []
      | some (first, rest) =>
        match rest with
        | 0x2D :: after =>
          match takeEscaped after with
          | some (last, rest) =>
            if last < first then
              throw (.ofText "range-endpoints of " ++ inQuotes [first, ascii '-', last]
                ++ .ofText " are in reverse collating sequence order")
            else
              let range := allBytes.filter fun x => first ≤ x && x ≤ last
              return .bytes range :: (← bunches fuel rest)
          | none => return .bytes [first] :: (← bunches fuel rest)
        | rest => return .bytes [first] :: (← bunches fuel rest)

/-- The bytes of a part; one that fills the room there is has so many copies. -/
def Bunch.spread (room : Nat) : Bunch → Bytes
  | .bytes l => l
  | .named name => classBytes name
  | .copies b count => List.replicate (count.getD room) b

/-- The bytes of a set, in order, the part without a number filled up to this length. -/
def spreadOut (length : Nat) (l : List Bunch) : Bytes :=
  let known := (l.flatMap (Bunch.spread 0)).length
  l.flatMap (Bunch.spread (length - known))

/-- The parts of a set, each with its place, and whether it is a class of letters in one case. -/
def placesOf (room : Nat) : (place : Nat) → List Bunch → List (Nat × Bool)
  | _, [] => []
  | place, part :: rest =>
    let isCase := match part with
      | .named name => name = .ofText "upper" || name = .ofText "lower"
      | _ => false
    (place, isCase) :: placesOf room (place + (part.spread room).length) rest

/-- What is wrong with sets of which the first is to be replaced by the second. -/
def pairingFault? (isInverse cutsSource : Bool) (source target : List Bunch) (length : Nat) :
    Option String :=
  let isIndefinite (part : Bunch) : Bool := part matches .copies _ none
  let isNamed (part : Bunch) : Bool := part matches .named _
  let isStrange (part : Bunch) : Bool := match part with
    | .named name => name != .ofText "upper" && name != .ofText "lower"
    | _ => false
  let room := length - (target.flatMap (Bunch.spread 0)).length
  let spelled := (target.flatMap (Bunch.spread room)).length
  let places := placesOf 0 0 source
  let isAligned (place : Nat × Bool) : Bool := !place.2 || length < place.1 || places.contains place
  if source.any isIndefinite then some "the [c*] repeat construct may not appear in string1"
  else if 1 < target.countP isIndefinite then
    some "only one [c*] repeat construct may appear in string2"
  else if target.any isStrange then
    some ("when translating, the only character classes that may appear in\n"
      ++ "string2 are 'upper' and 'lower'")
  else if !isInverse && !((placesOf room 0 target).all isAligned) then
    some "misaligned [:upper:] and/or [:lower:] construct"
  else if spelled < length && !cutsSource then
    if spelled = 0 then some "when not truncating set1, string2 must be non-empty"
    else if target.getLast?.any isNamed then
      some ("when translating with string1 longer than string2,\n"
        ++ "the latter string must not end with a character class")
    else none
  else none

/-- A run of equal bytes of a set becomes one byte. -/
def squeezed (set : Bytes) : (last : Option UInt8) → Bytes → Bytes
  | _, [] => []
  | last, b :: r =>
    if last = some b && set.contains b then squeezed set last r else b :: squeezed set (some b) r

/-- Replaces the bytes of its input by others, takes them away, or draws runs of them together. -/
def replaceBytes : Given → Effect :=
  withFrontOptions ⟨"cCdst", "", "", [("delete", 'd'), ("squeeze-repeats", 's'),
    ("complement", 'c'), ("truncate-set1", 't')]⟩ 1 fun g o words =>
    let deletes := o.has 'd'
    let squeezes := o.has 's'
    let wanted := if deletes == squeezes then 2 else 1
    let most := if deletes && !squeezes then 1 else 2
    let misused (complaint : Bytes) : Effect := g.misused 1 complaint
    let fault (complaint : Bytes) : Effect := g.refused 1 complaint
    match words with
    | [] => misused (.ofText "missing operand")
    | first :: more =>
      if words.length < wanted then
        misused (.ofText "missing operand after " ++ inQuotes first ++ .ofText (if deletes then
          "\nTwo strings must be given when both deleting and squeezing repeats."
          else "\nTwo strings must be given when translating."))
      else if most < words.length then
        misused (.ofText "extra operand " ++ inQuotes (words.getD most []) ++ .ofText
          (if words.length = 2 then
            "\nOnly one string may be given when deleting without squeezing repeats."
          else ""))
      else
        match bunches (first.length + 1) first, bunches ((more.headD []).length + 1) (more.headD [])
          with
        | .error complaint, _ => fault complaint
        | _, .error complaint => fault complaint
        | .ok source, .ok target =>
          let parts := (source, target)
          let spelled := spreadOut 0 source
          let isInverse := o.has 'c' || o.has 'C'
          let source := if isInverse then allBytes.filter (!spelled.contains ·) else spelled
          let target := spreadOut source.length target
          let fault? := if deletes || more.isEmpty then none
            else pairingFault? isInverse (o.has 't') parts.1 parts.2 source.length
          if let some s := fault? then fault (.ofText s)
          else if deletes then
            let kept := g.stdin.filter (!source.contains ·)
            { g.done 0 (if squeezes then squeezed target none kept else kept) [] with stdin := [] }
          else if more.isEmpty then
            { g.done 0 (squeezed source none g.stdin) [] with stdin := [] }
          else
            let source := if o.has 't' then source.take target.length else source
            let last := target.getLast?.getD 0
            let full := target ++ List.replicate (source.length - target.length) last
            let pairs := (source.zip full).reverse
            let out := g.stdin.map fun b => (pairs.lookup b).getD b
            { g.done 0 (if squeezes then squeezed target none out else out) [] with stdin := [] }

end BuildDispatch.Host.Programs
