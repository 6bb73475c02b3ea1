import BuildDispatch.Host.Escapes
import BuildDispatch.Host.Variables

/-!
Arithmetic of shell scripts: expressions over 64-bit integers and variables, read by precedence and
evaluated in the variables of a script, which assignments change.  Where the text of an expression
goes wrong, what stands before that place is evaluated nevertheless, and what goes wrong first
counts.
-/

namespace BuildDispatch.Host.Arithmetic

/-- Operators between two operands. -/
inductive Binary where
  | times | over | modulo | plus | minus | shiftLeft | shiftRight
  | less | atMost | greater | atLeast | equal | unequal
  | bitAnd | bitXor | bitOr
  deriving Repr, DecidableEq

/-- Operators in front of an operand. -/
inductive Unary where
  | same | negative | logicalNot | bitNot
  deriving Repr, DecidableEq

/-- What is wrong with an expression. -/
inductive Fault where
  | primaryExpected
  | endExpected
  | parenthesisExpected
  | colonExpected
  | divisionByZero
  /-- The quotient is beyond the integers of 64 bits. -/
  | overflow
  /-- The value of a variable is no number. -/
  | illegalNumber (text : Bytes)
  /-- A variable that may not change is to be set. -/
  | readOnly (name : Bytes)
  deriving Repr, DecidableEq

/-- Expressions. -/
inductive Expr where
  | number (n : Int)
  | variable (name : Bytes)
  | unary (o : Unary) (e : Expr)
  | binary (o : Binary) (a b : Expr)
  /-- The first operand alone counts if it settles the outcome. -/
  | both (a b : Expr)
  | either (a b : Expr)
  | choice (condition yes no : Expr)
  /-- Sets a variable, to its own value combined with that of the expression if there is an
  operator. -/
  | assign (name : Bytes) (o : Option Binary) (e : Expr)
  /-- The text goes wrong behind an expression. -/
  | faulty (before : Expr) (f : Fault)
  deriving Repr, DecidableEq

/-- The wording of a fault in an expression, given as it was written. -/
def Fault.message (expression : Bytes) : Fault → Bytes
  | .illegalNumber b => .ofText "Illegal number: " ++ b
  | .readOnly name => name ++ .ofText ": is read only"
  | fault =>
    let what := match fault with
      | .primaryExpected => "expecting primary"
      | .endExpected => "expecting EOF"
      | .parenthesisExpected => "expecting ')'"
      | .colonExpected => "expecting ':'"
      | _ => "division by zero"
    .ofText ("arithmetic expression: " ++ what ++ ": \"") ++ expression ++ .ofText "\""

/-! ### Reading -/

/-- White space between the tokens of an expression. -/
def isBlank (b : UInt8) : Bool := b = 0x20 || b = 0x09 || b = 0x0A

/-- A byte with which the name of a variable may begin. -/
def isNameStart (b : UInt8) : Bool := (Char.ofNat b.toNat).isAlpha || b = ascii '_'

/-- A byte of the name of a variable. -/
def isNameByte (b : UInt8) : Bool := isNameStart b || isDecimal b

/-- A number at the front of a text that begins with a digit: hexadecimal behind `0x`, octal behind
`0`, and decimal otherwise. -/
def numeral (b : Bytes) : Nat × Bytes :=
  let isHex (x : UInt8) : Bool := (hexValue? x).isSome
  match b with
  | z :: x :: d :: r =>
    if z = ascii '0' && (x = ascii 'x' || x = ascii 'X') && isHex d then
      (digitsValue 16 ((d :: r).takeWhile isHex), (d :: r).dropWhile isHex)
    else if z = ascii '0' then (digitsValue 8 (b.takeWhile isOctal), b.dropWhile isOctal)
    else (digitsValue 10 (b.takeWhile isDecimal), b.dropWhile isDecimal)
  | _ =>
    if b.head? = some (ascii '0') then (digitsValue 8 (b.takeWhile isOctal), b.dropWhile isOctal)
    else (digitsValue 10 (b.takeWhile isDecimal), b.dropWhile isDecimal)

/-- A token of an expression. -/
inductive Token where
  | number (n : Nat)
  | name (b : Bytes)
  | mark (s : String)
  | other
  deriving Repr, DecidableEq

/-- The marks of the language, those with another as their beginning before it. -/
def marks : List String := [
  "<<=", ">>=", "<<", ">>", "<=", ">=", "==", "!=", "&&", "||", "+=", "-=", "*=", "/=", "%=", "&=",
  "^=", "|=", "+", "-", "*", "/", "%", "<", ">", "=", "&", "^", "|", "!", "~", "?", ":", "(", ")"]

/-- The tokens of a text. -/
def tokens : (fuel : Nat) → Bytes → List Token
  | 0, _ => []
  | _, [] => []
  | fuel + 1, b :: r =>
    if isBlank b then tokens fuel r
    else if isDecimal b then
      let (n, rest) := numeral (b :: r)
      .number n :: tokens fuel rest
    else if isNameStart b then
      .name ((b :: r).takeWhile isNameByte) :: tokens fuel ((b :: r).dropWhile isNameByte)
    else
      match marks.find? fun m => (Bytes.ofText m).isPrefixOf (b :: r) with
      | some m => .mark m :: tokens fuel ((b :: r).drop m.length)
      | none => [.other]

/-- The operators between two operands, with their marks and how tightly they bind. -/
def binaries : List (String × Binary × Nat) := [
  ("*", .times, 10), ("/", .over, 10), ("%", .modulo, 10), ("+", .plus, 9), ("-", .minus, 9),
  ("<<", .shiftLeft, 8), (">>", .shiftRight, 8), ("<", .less, 7), ("<=", .atMost, 7),
  (">", .greater, 7), (">=", .atLeast, 7), ("==", .equal, 6), ("!=", .unequal, 6),
  ("&", .bitAnd, 5), ("^", .bitXor, 4), ("|", .bitOr, 3)]

/-- The operator that a mark of assignment combines values by. -/
def assignments : List (String × Option Binary) := [
  ("=", none), ("*=", some .times), ("/=", some .over), ("%=", some .modulo), ("+=", some .plus),
  ("-=", some .minus), ("<<=", some .shiftLeft), (">>=", some .shiftRight), ("&=", some .bitAnd),
  ("^=", some .bitXor), ("|=", some .bitOr)]

/-- What was read, and the tokens behind it. -/
abbrev Reading := Expr × List Token

/-- The end of what can be read: a fault behind what was read before. -/
def Reading.faulty (before : Expr) (f : Fault) : Reading := (.faulty before f, [])

/-- The fault of a missing operand. -/
def Reading.noPrimary : Reading := .faulty (.number 0) .primaryExpected

mutual

/-- An assignment, or a choice. -/
def readAssignment : (fuel : Nat) → List Token → Reading
  | 0, _ => .noPrimary
  | fuel + 1, .name v :: .mark m :: ts =>
    match assignments.lookup m with
    | some o =>
      let (e, ts) := readAssignment fuel ts
      (.assign v o e, ts)
    | none => readChoice fuel (.name v :: .mark m :: ts)
  | fuel + 1, ts => readChoice fuel ts

/-- A choice by a condition, or a disjunction. -/
def readChoice : (fuel : Nat) → List Token → Reading
  | 0, _ => .noPrimary
  | fuel + 1, ts =>
    match readEither fuel ts with
    | (condition, .mark "?" :: ts) =>
      match readAssignment fuel ts with
      | (yes, .mark ":" :: ts) =>
        let (no, ts) := readChoice fuel ts
        (.choice condition yes no, ts)
      | (yes, _) => (.choice condition (.faulty yes .colonExpected) (.number 0), [])
    | reading => reading

/-- A disjunction, or a conjunction. -/
def readEither : (fuel : Nat) → List Token → Reading
  | 0, _ => .noPrimary
  | fuel + 1, ts =>
    match readBoth fuel ts with
    | (a, .mark "||" :: ts) =>
      let (b, ts) := readEither fuel ts
      (.either a b, ts)
    | reading => reading

/-- A conjunction, or operands joined by other operators. -/
def readBoth : (fuel : Nat) → List Token → Reading
  | 0, _ => .noPrimary
  | fuel + 1, ts =>
    let (a, ts) := readPrimary fuel ts
    match readOperators fuel 0 a ts with
    | (a, .mark "&&" :: ts) =>
      let (b, ts) := readBoth fuel ts
      (.both a b, ts)
    | reading => reading

/-- Operators that bind at least so tightly, from the left, behind a first operand. -/
def readOperators : (fuel tightness : Nat) → Expr → List Token → Reading
  | 0, _, _, _ => .noPrimary
  | fuel + 1, tightness, a, .mark m :: ts =>
    match binaries.lookup m with
    | some (o, t) =>
      if t < tightness then (a, .mark m :: ts)
      else
        let (b, ts) := readPrimary fuel ts
        let (b, ts) := readOperators fuel (t + 1) b ts
        readOperators fuel tightness (.binary o a b) ts
    | none => (a, .mark m :: ts)
  | _, _, a, ts => (a, ts)

/-- An operand with the operators in front of it. -/
def readPrimary : (fuel : Nat) → List Token → Reading
  | 0, _ => .noPrimary
  | _, .number n :: ts => (.number n, ts)
  | _, .name v :: ts => (.variable v, ts)
  | fuel + 1, .mark "(" :: ts =>
    match readAssignment fuel ts with
    | (e, .mark ")" :: ts) => (e, ts)
    | (e, _) => .faulty e .parenthesisExpected
  | fuel + 1, .mark m :: ts =>
    let ofMark : List (String × Unary) :=
      [("+", .same), ("-", .negative), ("!", .logicalNot), ("~", .bitNot)]
    match ofMark.lookup m with
    | some o =>
      let (e, ts) := readPrimary fuel ts
      (.unary o e, ts)
    | none => .noPrimary
  | _, _ => .noPrimary

end

/-- The expression that a text spells. -/
def read (b : Bytes) : Expr :=
  let ts := tokens (b.length + 1) b
  match readAssignment (20 * (ts.length + 1)) ts with
  | (e, []) => e
  | (e, _) => .faulty e .endExpected

/-! ### Evaluation -/

/-- The largest integer of 64 bits. -/
def maxInt : Int := 9223372036854775807

/-- An integer as 64 bits hold it. -/
def wrapped (n : Int) : Int := n.bmod 18446744073709551616

/-- The value of a signed numeral, if a text is one; white space alone stands for zero. -/
def integer? (b : Bytes) : Option Int :=
  let isSpace (x : UInt8) : Bool := x = 0x20 || (0x09 ≤ x && x ≤ 0x0D)
  let b := b.dropWhile isSpace
  let isSign := b.head? = some (ascii '-') || b.head? = some (ascii '+')
  let digits := if isSign then b.tail else b
  if (digits.head?.map isDecimal).getD false then
    let (n, rest) := numeral digits
    let value : Int := if b.head? = some (ascii '-') then -(n : Int) else n
    if rest.all isSpace && wrapped value = value then some value else none
  else if b.isEmpty then some 0
  else none

/-- The number that a variable holds; one that is not set holds zero. -/
def variableValue (vars : Variables) (name : Bytes) : Except Fault Int :=
  let text := (vars.get? name).getD []
  match integer? text with
  | some n => .ok n
  | none => .error (.illegalNumber text)

/-- One for a condition that holds. -/
def truth (b : Bool) : Int := if b then 1 else 0

/-- The bits of an integer as a natural number. -/
def bits (n : Int) : Nat := (n.emod 18446744073709551616).toNat

/-- Two operands combined. -/
def Binary.apply (o : Binary) (a b : Int) : Except Fault Int :=
  match o with
  | .times => .ok (wrapped (a * b))
  | .over => if b = 0 then .error .divisionByZero else quotient a b fun a b => a.tdiv b
  | .modulo => if b = 0 then .error .divisionByZero else quotient a b fun a b => a.tmod b
  | .plus => .ok (wrapped (a + b))
  | .minus => .ok (wrapped (a - b))
  | .shiftLeft => .ok (wrapped (bits a <<< (bits b % 64) : Nat))
  | .shiftRight => .ok (a.shiftRight (bits b % 64))
  | .less => .ok (truth (a < b))
  | .atMost => .ok (truth (a ≤ b))
  | .greater => .ok (truth (b < a))
  | .atLeast => .ok (truth (b ≤ a))
  | .equal => .ok (truth (a = b))
  | .unequal => .ok (truth (a ≠ b))
  | .bitAnd => .ok (wrapped (bits a &&& bits b : Nat))
  | .bitXor => .ok (wrapped (bits a ^^^ bits b : Nat))
  | .bitOr => .ok (wrapped (bits a ||| bits b : Nat))
where
  /-- A quotient or its remainder, unless the quotient is too large. -/
  quotient (a b : Int) (f : Int → Int → Int) : Except Fault Int :=
    if maxInt < a.tdiv b then .error .overflow else .ok (f a b)

/-- An operand with an operator in front of it. -/
def Unary.apply : Unary → Int → Int
  | .same, n => n
  | .negative, n => wrapped (-n)
  | .logicalNot, n => truth (n = 0)
  | .bitNot, n => -n - 1

/-- The text of an integer. -/
def integerText (n : Int) : Bytes := .ofText (toString n)

/-- Where the text of an expression goes wrong. -/
def Expr.fault? : Expr → Option Fault
  | .number _ | .variable _ => none
  | .unary _ e | .assign _ _ e => e.fault?
  | .binary _ a b | .both a b | .either a b => a.fault? <|> b.fault?
  | .choice condition yes no => condition.fault? <|> yes.fault? <|> no.fault?
  | .faulty before f => before.fault? <|> some f

/-- Passes over an expression, whose text must be right all the same. -/
def Expr.passOver (e : Expr) : Except Fault Unit :=
  match e.fault? with
  | some f => .error f
  | none => .ok ()

/-- The value of an expression, and the variables behind it. -/
def Expr.value (vars : Variables) : Expr → Except Fault (Int × Variables)
  | .number n => .ok (min n maxInt, vars)
  | .variable name => do return (← variableValue vars name, vars)
  | .unary o e => do
    let (n, vars) ← e.value vars
    return (o.apply n, vars)
  | .binary o a b => do
    let (m, vars) ← a.value vars
    let (n, vars) ← b.value vars
    return (← o.apply m n, vars)
  | .both a b => do
    let (m, vars) ← a.value vars
    if m = 0 then
      b.passOver
      return (0, vars)
    else
      let (n, vars) ← b.value vars
      return (truth (n ≠ 0), vars)
  | .either a b => do
    let (m, vars) ← a.value vars
    if m ≠ 0 then
      b.passOver
      return (1, vars)
    else
      let (n, vars) ← b.value vars
      return (truth (n ≠ 0), vars)
  | .choice condition yes no => do
    let (n, vars) ← condition.value vars
    if n ≠ 0 then
      let outcome ← yes.value vars
      no.passOver
      return outcome
    else
      yes.passOver
      no.value vars
  | .assign name o e => do
    let (n, vars) ← e.value vars
    let n ← match o with
      | none => pure n
      | some o => o.apply (← variableValue vars name) n
    if vars.isFixed name then throw (.readOnly name)
    return (n, vars.insert name (integerText n))
  | .faulty before f => do
    let _ ← before.value vars
    throw f

/-- The value of an expression as it is written, and the variables behind it. -/
def evaluate (vars : Variables) (b : Bytes) : Except Fault (Int × Variables) := (read b).value vars

end BuildDispatch.Host.Arithmetic
