import BuildDispatch.Host.Report.Token

/-!
Reading of reports.
-/

namespace BuildDispatch.Host.Report

/-- What is left to be read, and the number of the line that was read last. -/
structure Rest where
  tokens : List (Nat × Token)
  line : Nat

/-- A part of the reading of a report. -/
abbrev Reading := StateT Rest (Except Bytes)

/-- What the signs around an expression forbid in it. -/
structure Limits where
  /-- A sign that prints to a file is no comparison. -/
  noGreater : Bool
  /-- The word before the name of a table ends the expression. -/
  noWithin : Bool

/-- An expression without limits. -/
def Limits.none : Limits := ⟨false, false⟩

namespace Reading

/-- The next word. -/
def peek : Reading (Option Token) := do return ((← get).tokens.head?).map (·.2)

/-- Goes past the next word. -/
def skip : Reading Unit := modify fun s =>
  ⟨s.tokens.tail, ((s.tokens.head?).map (·.1)).getD s.line⟩

/-- Nothing can be read here. -/
def refuse {α : Type} : Reading α := do
  let s ← get
  match s.tokens with
  | (line, t) :: _ =>
    throw (.ofText ("line " ++ toString line ++ ": syntax error at or near ") ++ t.shown)
  | [] =>
    throw (.ofText ("line " ++ toString (s.line + 1) ++ ": syntax error at or near end of file"))

/-- Goes past a sign if it is next. -/
def takes (s : String) : Reading Bool := do
  if (← peek) = some (.sign s) then
    skip
    return true
  else return false

/-- Goes past a keyword if it is next. -/
def takesWord (s : String) : Reading Bool := do
  if (← peek) = some (.keyword s) then
    skip
    return true
  else return false

/-- Goes past a sign that must be next. -/
def expect (s : String) : Reading Unit := do
  if !(← takes s) then refuse

/-- Goes past a name that must be next. -/
def name : Reading Bytes := do
  match ← peek with
  | some (.name b) =>
    skip
    return b
  | _ => refuse

/-- Goes past the ends of lines. -/
def skipLines : Reading Unit := modify fun s =>
  let rest := s.tokens.dropWhile fun t => t.2 = .newline
  ⟨rest, (((s.tokens.take (s.tokens.length - rest.length)).getLast?).map (·.1)).getD s.line⟩

/-- Goes past the ends of lines and of statements. -/
def skipEnds : Reading Unit := modify fun s =>
  let isEnd (t : Nat × Token) : Bool := t.2 = .newline || t.2 = .sign ";"
  let rest := s.tokens.dropWhile isEnd
  ⟨rest, (((s.tokens.take (s.tokens.length - rest.length)).getLast?).map (·.1)).getD s.line⟩

end Reading

open Reading

/-- The operators that go with an assignment. -/
def assignments : List (String × Option Arithmetic) := [
  ("=", none), ("+=", some .plus), ("-=", some .minus), ("*=", some .times), ("/=", some .over),
  ("%=", some .remainder), ("^=", some .power)]

/-- The signs of comparisons. -/
def comparisons : List (String × Comparison) := [
  ("<", .less), ("<=", .atMost), ("==", .equal), ("!=", .unequal), (">=", .atLeast),
  (">", .greater)]

/-- Whether a word can begin an expression that is joined to the one before it. -/
def Token.beginsJoined : Token → Bool
  | .number _ | .text _ | .name _ | .call _ | .builtin _ => true
  | .sign s => ["$", "(", "!", "-", "+", "++", "--"].contains s
  | _ => false

mutual

/-- An expression, perhaps with an assignment. -/
def expression : (fuel : Nat) → Limits → Reading Expr
  | 0, _ => refuse
  | fuel + 1, l => do
    let e ← choice fuel l
    match e, ← peek with
    | .target t, some (.sign s) =>
      match assignments.lookup s with
      | some op =>
        skip
        skipLines
        return .assign t op (← expression fuel l)
      | none => return e
    | _, _ => return e

/-- An expression with a question mark, or without one. -/
def choice : (fuel : Nat) → Limits → Reading Expr
  | 0, _ => refuse
  | fuel + 1, l => do
    let c ← disjunction fuel l
    if ← takes "?" then
      skipLines
      let a ← expression fuel l
      skipLines
      expect ":"
      skipLines
      return .choice c a (← expression fuel l)
    else return c

/-- Conditions of which one must hold. -/
def disjunction : (fuel : Nat) → Limits → Reading Expr
  | 0, _ => refuse
  | fuel + 1, l => do
    let a ← conjunction fuel l
    if ← takes "||" then
      skipLines
      return .either a (← disjunction fuel l)
    else return a

/-- Conditions that must all hold. -/
def conjunction : (fuel : Nat) → Limits → Reading Expr
  | 0, _ => refuse
  | fuel + 1, l => do
    let a ← membership fuel l (← matches' fuel l)
    if ← takes "&&" then
      skipLines
      return .both a (← conjunction fuel l)
    else return a

/-- The question whether a table has an entry, asked as often as it is. -/
def membership : (fuel : Nat) → Limits → Expr → Reading Expr
  | 0, _, _ => refuse
  | fuel + 1, l, a => do
    if !l.noWithin && (← takesWord "in") then membership fuel l (.within [a] (← name))
    else return a

/-- The question whether an expression matches. -/
def matches' : (fuel : Nat) → Limits → Reading Expr
  | 0, _ => refuse
  | fuel + 1, l => do
    let a ← comparison fuel l
    if ← takes "~" then return .matching false a (← comparison fuel l)
    else if ← takes "!~" then return .matching true a (← comparison fuel l)
    else return a

/-- A comparison. -/
def comparison : (fuel : Nat) → Limits → Reading Expr
  | 0, _ => refuse
  | fuel + 1, l => do
    let a ← joined fuel l (← sum fuel l none)
    match ← peek with
    | some (.sign s) =>
      match comparisons.lookup s with
      | some op =>
        if s = ">" && l.noGreater then return a
        else
          skip
          return .compare op a (← joined fuel l (← sum fuel l none))
      | none => return a
    | _ => return a

/-- Expressions beside each other. -/
def joined : (fuel : Nat) → Limits → Expr → Reading Expr
  | 0, _, _ => refuse
  | fuel + 1, l, a => do
    if ((← peek).map Token.beginsJoined).getD false then
      joined fuel l (.joined a (← sum fuel l none))
    else return a

/-- A sum or difference, from its first part on if that was read. -/
def sum : (fuel : Nat) → Limits → Option Expr → Reading Expr
  | 0, _, _ => refuse
  | fuel + 1, l, first => do
    let a ← match first with
      | some a => pure a
      | none => product fuel l none
    if ← takes "+" then sum fuel l (some (.arithmetic .plus a (← product fuel l none)))
    else if ← takes "-" then sum fuel l (some (.arithmetic .minus a (← product fuel l none)))
    else return a

/-- A product, quotient or remainder, from its first part on if that was read. -/
def product : (fuel : Nat) → Limits → Option Expr → Reading Expr
  | 0, _, _ => refuse
  | fuel + 1, l, first => do
    let a ← match first with
      | some a => pure a
      | none => signed fuel l
    if ← takes "*" then product fuel l (some (.arithmetic .times a (← signed fuel l)))
    else if ← takes "/" then product fuel l (some (.arithmetic .over a (← signed fuel l)))
    else if ← takes "%" then product fuel l (some (.arithmetic .remainder a (← signed fuel l)))
    else return a

/-- An expression behind a sign or a negation. -/
def signed : (fuel : Nat) → Limits → Reading Expr
  | 0, _ => refuse
  | fuel + 1, l => do
    if ← takes "!" then return .not (← signed fuel l)
    else if ← takes "-" then return .negative (← signed fuel l)
    else if ← takes "+" then return .positive (← signed fuel l)
    else power fuel l

/-- A power; of several, the last is worked out first. -/
def power : (fuel : Nat) → Limits → Reading Expr
  | 0, _ => refuse
  | fuel + 1, l => do
    let a ← counted fuel l
    if ← takes "^" then return .arithmetic .power a (← signed fuel l)
    else return a

/-- An expression with a sign that counts, or without one. -/
def counted : (fuel : Nat) → Limits → Reading Expr
  | 0, _ => refuse
  | fuel + 1, l => do
    if ← takes "++" then return .count (← target fuel l) true false
    else if ← takes "--" then return .count (← target fuel l) false false
    else
      let a ← primary fuel l
      match a with
      | .target t =>
        if ← takes "++" then return .count t true true
        else if ← takes "--" then return .count t false true
        else return a
      | a => return a

/-- What a value can be given to. -/
def target : (fuel : Nat) → Limits → Reading Target
  | 0, _ => refuse
  | fuel + 1, l => do
    match ← primary fuel l with
    | .target t => return t
    | _ => refuse

/-- An expression without operators. -/
def primary : (fuel : Nat) → Limits → Reading Expr
  | 0, _ => refuse
  | fuel + 1, l => do
    match ← peek with
    | some (.number n) =>
      skip
      return .number n
    | some (.text b) =>
      skip
      return .text b
    | some (.pattern b) =>
      skip
      return .pattern (regexOf b)
    | some (.name b) =>
      skip
      if ← takes "[" then
        let subscripts ← list fuel
        expect "]"
        return .target (.entry b subscripts)
      else return .target (.variable b)
    | some (.call b) =>
      skip
      expect "("
      return .call b (← arguments fuel)
    | some (.builtin f) =>
      skip
      if ← takes "(" then return .builtin f (← arguments fuel)
      else if f = .length then return .builtin f []
      else refuse
    | some (.sign "$") =>
      skip
      if ← takes "-" then return .target (.field (.negative (← counted fuel l)))
      else if ← takes "++" then return .target (.field (.count (← target fuel l) true false))
      else if ← takes "--" then return .target (.field (.count (← target fuel l) false false))
      else return .target (.field (← primary fuel l))
    | some (.sign "(") =>
      skip
      let l ← list fuel
      expect ")"
      match l with
      | [e] => return e
      | l => if ← takesWord "in" then return .within l (← name) else refuse
    | some (.keyword "getline") =>
      skip
      let hasTarget := match ← peek with
        | some (.name _) | some (.sign "$") => true
        | _ => false
      let t ← if hasTarget then some <$> target fuel l else pure none
      if ← takes "<" then return .read t (some (← counted fuel l)) else return .read t none
    | _ => refuse

/-- The arguments of a function, up to the closing parenthesis. -/
def arguments : (fuel : Nat) → Reading (List Expr)
  | 0 => refuse
  | fuel + 1 => do
    if ← takes ")" then return []
    else
      let l ← list fuel
      expect ")"
      return l

/-- Expressions with commas between them. -/
def list : (fuel : Nat) → Reading (List Expr)
  | 0 => refuse
  | fuel + 1 => do
    skipLines
    let e ← expression fuel .none
    skipLines
    if ← takes "," then return e :: (← list fuel) else return [e]

/-- The same, where a sign prints to a file. -/
def listToPrint : (fuel : Nat) → Reading (List Expr)
  | 0 => refuse
  | fuel + 1 => do
    let e ← expression fuel ⟨true, false⟩
    if ← takes "," then
      skipLines
      return e :: (← listToPrint fuel)
    else return [e]

end

/-- Whether a statement ends before a word. -/
def endsBefore : Option Token → Bool
  | none | some .newline => true
  | some (.sign s) => [";", "\x7d", ">", ">>"].contains s
  | _ => false

/-- What a statement prints: a list that may stand in parentheses. -/
def printed (fuel : Nat) : Reading (List Expr) := do
  if endsBefore (← peek) then return []
  else
    let before ← get
    let inParentheses : Reading (Option (List Expr)) := do
      expect "("
      let l ← list fuel
      expect ")"
      return if endsBefore (← peek) then some l else none
    match inParentheses.run before with
    | .ok (some l, rest) =>
      set rest
      return l
    | _ => listToPrint fuel

/-- Where a statement prints to. -/
def aim (fuel : Nat) : Reading Aim := do
  let file : Reading Expr := do joined fuel ⟨true, false⟩ (← primary fuel ⟨true, false⟩)
  if ← takes ">" then return .file (← file) false
  else if ← takes ">>" then return .file (← file) true
  else return .output

/-- A statement of one line. -/
def simple (fuel : Nat) : Reading Statement := do
  if ← takesWord "print" then
    let l ← printed fuel
    return .print l (← aim fuel)
  else if ← takesWord "printf" then
    let l ← printed fuel
    if l.isEmpty then refuse
    return .printf l (← aim fuel)
  else if ← takesWord "next" then return .next
  else if ← takesWord "break" then return .leave
  else if ← takesWord "continue" then return .again
  else if ← takesWord "exit" then
    return .stop (← if endsBefore (← peek) then pure none else some <$> expression fuel .none)
  else if ← takesWord "return" then
    return .give (← if endsBefore (← peek) then pure none else some <$> expression fuel .none)
  else if ← takesWord "delete" then
    let table ← name
    if ← takes "[" then
      let subscripts ← list fuel
      expect "]"
      return .erase table subscripts
    else return .erase table []
  else return .evaluate (← expression fuel .none)

/-- Goes past the end of a statement. -/
def endOfStatement : Reading Unit := do
  match ← peek with
  | none | some (.sign "\x7d") => return ()
  | some .newline | some (.sign ";") => skipEnds
  | _ => refuse

mutual

/-- A statement. -/
def statement : (fuel : Nat) → Reading Statement
  | 0 => refuse
  | fuel + 1 => do
    if ← takes "\x7b" then
      let l ← statements fuel
      skipEnds
      return .block l
    else if ← takes ";" then
      skipLines
      return .block []
    else if ← takesWord "if" then
      let c ← condition fuel
      let yes ← statement fuel
      let before ← get
      skipEnds
      if ← takesWord "else" then
        skipLines
        return .choose c yes (some (← statement fuel))
      else
        set before
        return .choose c yes none
    else if ← takesWord "while" then
      let c ← condition fuel
      return .loop c (← statement fuel)
    else if ← takesWord "do" then
      skipLines
      let body ← statement fuel
      skipEnds
      if !(← takesWord "while") then refuse
      let c ← condition fuel
      endOfStatement
      return .loopOnce body c
    else if ← takesWord "for" then
      expect "("
      repeated fuel
    else
      let s ← simple fuel
      endOfStatement
      return s

/-- A loop with a header, behind the opening parenthesis. -/
def repeated : (fuel : Nat) → Reading Statement
  | 0 => refuse
  | fuel + 1 => do
    match (← get).tokens with
    | (_, .name x) :: (_, .keyword "in") :: (_, .name table) :: (_, .sign ")") :: rest =>
      modify fun s => { s with tokens := rest }
      skipLines
      return .forEach x table (← statement fuel)
    | _ =>
      let part (mark : String) : Reading (Option Statement) := do
        if ← takes mark then return none
        else
          let s ← simple fuel
          expect mark
          return some s
      let first ← part ";"
      skipLines
      let c ← if ← takes ";" then pure none else do
        let e ← expression fuel .none
        expect ";"
        pure (some e)
      skipLines
      let step ← part ")"
      skipLines
      return .loopWith first c step (← statement fuel)

/-- A condition in parentheses. -/
def condition : (fuel : Nat) → Reading Expr
  | 0 => refuse
  | fuel + 1 => do
    expect "("
    let c ← expression fuel .none
    expect ")"
    skipLines
    return c

/-- Statements up to the closing brace. -/
def statements : (fuel : Nat) → Reading (List Statement)
  | 0 => refuse
  | fuel + 1 => do
    skipEnds
    if ← takes "\x7d" then return []
    else if (← peek).isNone then
      throw (.ofText ("line " ++ toString ((← get).line + 1) ++ ": missing \x7d near end of file"))
    else
      let s ← statement fuel
      return s :: (← statements fuel)

end

/-- The statement of a rule, if there is one. -/
def action (fuel : Nat) : Reading (Option Statement) := do
  if ← takes "\x7b" then return some (.block (← statements fuel)) else return none

/-- The names of parameters, up to the closing parenthesis. -/
def parameters : (fuel : Nat) → Reading (List Bytes)
  | 0 => refuse
  | fuel + 1 => do
    skipLines
    if ← takes ")" then return []
    else
      let x ← name
      skipLines
      if ← takes "," then return x :: (← parameters fuel)
      else
        expect ")"
        return [x]

/-- The rules and functions of a report. -/
def parts : (fuel : Nat) → Report → Reading Report
  | 0, _ => refuse
  | fuel + 1, report => do
    skipEnds
    if (← peek).isNone then return report
    else if ← takesWord "function" then
      let x ← match ← peek with
        | some (.call b) | some (.name b) => do
          skip
          pure b
        | _ => refuse
      expect "("
      let names ← parameters fuel
      skipLines
      match ← action fuel with
      | some body => parts fuel { report with functions := report.functions ++ [⟨x, names, body⟩] }
      | none => refuse
    else
      let occasion : Occasion ←
        if ← takesWord "BEGIN" then pure .atStart
        else if ← takesWord "END" then pure .atEnd
        else if (← peek) = some (.sign "\x7b") then pure .always
        else
          let first ← expression fuel .none
          if ← takes "," then
            skipLines
            pure (.span first (← expression fuel .none))
          else pure (.on first)
      let body ← action fuel
      match occasion, body with
      | .atStart, none | .atEnd, none => refuse
      | _, _ =>
        if body.isNone then endOfStatement
        parts fuel { report with rules := report.rules ++ [⟨occasion, body⟩] }

/-- The report of a text, or what is wrong with it. -/
def ofBytes (b : Bytes) : Except Bytes Report := do
  let l ← tokens (2 * b.length + 2) 1 none b
  let (report, _) ← (parts (20 * (l.length + 2)) ⟨[], []⟩).run ⟨l, 1⟩
  return report

end BuildDispatch.Host.Report
