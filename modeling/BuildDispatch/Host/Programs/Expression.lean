import BuildDispatch.Host.Programs.Printing
import BuildDispatch.Host.Regex.Reader

/-!
A program that works out an expression whose operands and operators are words.
-/

namespace BuildDispatch.Host.Programs

namespace Expression

/-- Why an expression has no value. -/
inductive Fault where
  | missingAfter (word : Bytes)
  | unexpected (word : Bytes)
  | unclosed (after : Bytes)
  | notClosed (found : Bytes)
  | unexpectedClosing
  | notANumber
  | divisionByZero
  | badPattern (reason : String)

/-- The text of a fault. -/
def Fault.message : Fault → Bytes
  | .missingAfter w => .ofText "syntax error: missing argument after " ++ inQuotes w
  | .unexpected w => .ofText "syntax error: unexpected argument " ++ inQuotes w
  | .unclosed w => .ofText "syntax error: expecting ')' after " ++ inQuotes w
  | .notClosed w => .ofText "syntax error: expecting ')' instead of " ++ inQuotes w
  | .unexpectedClosing => .ofText "syntax error: unexpected ')'"
  | .notANumber => .ofText "non-integer argument"
  | .divisionByZero => .ofText "division by zero"
  | .badPattern s => .ofText s

/-- Whether a value counts as false: an empty one, and a number that is zero. -/
def isNull (b : Bytes) : Bool :=
  let digits := if b.head? = some (ascii '-') then b.tail else b
  b.isEmpty || (!digits.isEmpty && digits.all (· = ascii '0'))

/-- The number of a value. -/
def number (b : Bytes) : Except Fault Int :=
  match integer? b with
  | some n => .ok n
  | none => .error .notANumber

/-- The text of a number. -/
def ofInt (n : Int) : Bytes := .ofText (toString n)

/-- The text of a truth value. -/
def ofBool (b : Bool) : Bytes := .ofText (if b then "1" else "0")

/-- What a pattern takes of the front of a text: the text of its first group, or else the length. -/
def taken (text pattern : Bytes) : Except Fault Bytes :=
  match Regex.readBytes ⟨false, false, false, false, true⟩ pattern with
  | .error s => .error (.badPattern s)
  | .ok (r, groups) =>
    let hasGroup := 0 < groups
    match r.matchAt? (fun _ => true) ⟨none, text, []⟩ with
    | some p =>
      if hasGroup then .ok ((p.groups.lookup 1).getD [])
      else .ok (ofInt (text.length - p.rest.length))
    | none => .ok (if hasGroup then [] else ofBool false)

/-- How two values compare: as numbers if both are, and else byte by byte. -/
def order (a b : Bytes) : Ordering :=
  match integer? a, integer? b with
  | some m, some n => compare m n
  | _, _ => if a = b then .eq else if a < b then .lt else .gt

/-- The operators, by how tightly they bind, the loosest ones first. -/
def levels : List (List String) := [
  ["|"], ["&"], ["<", "<=", "=", "==", "!=", ">=", ">"], ["+", "-"], ["*", "/", "%"], [":"]]

/-- Applies an operator. -/
def apply (operator : String) (a b : Bytes) : Except Fault Bytes := do
  match operator with
  | "|" => return if !isNull a then a else if !isNull b then b else ofBool false
  | "&" => return if isNull a || isNull b then ofBool false else a
  | "<" => return ofBool (order a b).isLT
  | "<=" => return ofBool (order a b).isLE
  | "=" | "==" => return ofBool (order a b).isEq
  | "!=" => return ofBool (order a b).isNe
  | ">=" => return ofBool (order a b).isGE
  | ">" => return ofBool (order a b).isGT
  | "+" => return ofInt ((← number a) + (← number b))
  | "-" => return ofInt ((← number a) - (← number b))
  | "*" => return ofInt ((← number a) * (← number b))
  | ":" => taken a b
  | _ =>
    let m ← number a
    let n ← number b
    if n = 0 then throw .divisionByZero
    else return ofInt (if operator = "/" then m.tdiv n else m.tmod n)

mutual

/-- The value of operands joined by operators of a level and the tighter ones, and the words behind
it; `last` is the word before. -/
def level : (fuel depth : Nat) → (last : Bytes) → List Bytes → Except Fault (Bytes × List Bytes)
  | 0, _, last, _ => .error (.missingAfter last)
  | fuel + 1, depth, last, words => do
    if levels.length ≤ depth then operand fuel last words
    else
      let (a, rest) ← level fuel (depth + 1) last words
      joined fuel depth a rest

/-- The value of what is already worked out and what is joined to it. -/
def joined : (fuel depth : Nat) → (value : Bytes) → List Bytes →
    Except Fault (Bytes × List Bytes)
  | 0, _, value, words => .ok (value, words)
  | _, _, value, [] => .ok (value, [])
  | fuel + 1, depth, value, w :: rest => do
    match (levels.getD depth []).find? fun s => Bytes.ofText s = w with
    | none => return (value, w :: rest)
    | some operator =>
      let (b, rest) ← level fuel (depth + 1) w rest
      joined fuel depth (← apply operator value b) rest

/-- The value of an operand: a word, a function of operands, or an expression in parentheses. -/
def operand : (fuel : Nat) → (last : Bytes) → List Bytes → Except Fault (Bytes × List Bytes)
  | 0, last, _ => .error (.missingAfter last)
  | _, last, [] => .error (.missingAfter last)
  | fuel + 1, _, w :: rest => do
    let depth := levels.length
    let isWord (s : String) : Bool := Bytes.ofText s = w
    if isWord "(" then
      let (a, behind) ← level fuel 0 w rest
      match behind with
      | [] => throw (.unclosed ((rest.getLast?).getD w))
      | c :: behind => if c = .ofText ")" then return (a, behind) else throw (.notClosed c)
    else if isWord ")" then throw .unexpectedClosing
    else if isWord "+" then
      match rest with
      | [] => throw (.missingAfter w)
      | a :: rest => return (a, rest)
    else if isWord "length" then
      let (a, rest) ← level fuel depth w rest
      return (ofInt a.length, rest)
    else if isWord "match" then
      let (a, rest) ← level fuel depth w rest
      let (b, rest) ← level fuel depth a rest
      return (← taken a b, rest)
    else if isWord "index" then
      let (a, rest) ← level fuel depth w rest
      let (b, rest) ← level fuel depth a rest
      return (.ofText (toString (((a.findIdx? b.contains).map (· + 1)).getD 0)), rest)
    else if isWord "substr" then
      let (a, rest) ← level fuel depth w rest
      let (b, rest) ← level fuel depth a rest
      let (c, rest) ← level fuel depth b rest
      let first := ((integer? b).getD 0).toNat
      let count := ((integer? c).getD 0).toNat
      return (if first = 0 then [] else (a.drop (first - 1)).take count, rest)
    else return (w, rest)

end

end Expression

/-- Works out an expression and prints its value; a value that counts as false is a failure. -/
def express (g : Given) : Effect :=
  let words := if g.args.head? = some (Bytes.ofText "--") then g.args.tail else g.args
  let fault (f : Expression.Fault) : Effect :=
    g.refused 2 f.message
  if words.isEmpty then g.misused 2 (.ofText "missing operand")
  else
    match Expression.level (20 * (words.length + 2)) 0 [] words with
    | .error f => fault f
    | .ok (_, w :: _) => fault (.unexpected w)
    | .ok (value, []) =>
      g.done (if Expression.isNull value then 1 else 0) (value ++ .ofText "\n") []

end BuildDispatch.Host.Programs
