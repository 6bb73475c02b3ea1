import BuildDispatch.Host.Escapes
import BuildDispatch.Host.Script

/-!
Reading of shell scripts.  A script is read byte by byte, each byte as the character of its value,
and command by command: what is wrong with a later command does not touch those before it.
-/

namespace BuildDispatch.Host.Script

/-! ### Tokens -/

/-- The kinds of redirections. -/
inductive Arrow where
  | write (behind forced : Bool)
  | read
  | open
  | copy
  /-- A text in the script; its lines may be indented by tabs that do not count. -/
  | document (indented : Bool)
  deriving Repr, DecidableEq

/-- A word or a mark of a script. -/
inductive Token where
  | endOfFile
  | newline
  | semicolon
  | ampersand
  | both
  | either
  | bar
  | opening
  | closing
  | endCase
  | redirection (descriptor : Option Nat) (a : Arrow)
  | word (w : Word)
  | keyword (name : String)

/-- The words with a meaning of their own at the beginning of a command. -/
def keywords : List String := [
  "!", "case", "do", "done", "elif", "else", "esac", "fi", "for", "if", "in", "then", "until",
  "while", "\x7b", "\x7d"]

/-- A token as complaints name it. -/
def Token.name : Token → String
  | .endOfFile => "end of file"
  | .newline => "newline"
  | .semicolon => "\";\""
  | .ampersand => "\"&\""
  | .both => "\"&&\""
  | .either => "\"||\""
  | .bar => "\"|\""
  | .opening => "\"(\""
  | .closing => "\")\""
  | .endCase => "\";;\""
  | .redirection .. => "redirection"
  | .word _ => "word"
  | .keyword name => "\"" ++ name ++ "\""

/-- Whether a token ends a list of commands within another command. -/
def Token.endsList : Token → Bool
  | .endOfFile | .closing | .endCase => true
  | .keyword name => ["do", "done", "elif", "else", "esac", "fi", "then", "\x7d"].contains name
  | _ => false

/-- A text for a command that stands behind the present line. -/
structure Awaited where
  number : Nat
  /-- The line that ends the text. -/
  ending : List Char
  /-- Whether tabs in front of its lines do not count. -/
  indented : Bool
  /-- Whether dollar signs mean nothing in it. -/
  literal : Bool

/-- Where reading has come to. -/
structure Cursor where
  rest : List Char
  line : Nat
  /-- How many texts for commands there were. -/
  documents : Nat
  /-- Those that stand behind the present line. -/
  awaited : List Awaited
  /-- Those that were read, by their numbers. -/
  found : List (Nat × Word)
  /-- Those that an earlier reading has found. -/
  known : List (Nat × Word)
  /-- Whether a text for a command is being read, and no command within it. -/
  inDocument : Bool
  /-- Whether the word that is read is to end a text for a command: dollar signs and backquotes mean
  nothing in it. -/
  inEnding : Bool
  /-- A token that was read and is to be read again. -/
  pushed : Option Token
  /-- The words that stand for other texts at the beginning of a command. -/
  aliases : List (Bytes × List Char)
  /-- The words whose texts were put in front of the rest, each with the length of that rest, and
  whether its text ends with a blank. -/
  putIn : List (Bytes × Nat × Bool)

/-- A cursor at the beginning of a text. -/
def Cursor.atStart (aliases : List (Bytes × List Char)) (line : Nat) (text : List Char) : Cursor :=
  ⟨text, line, 0, [], [], [], false, false, none, aliases, []⟩

/-- The characters that bytes stand for. -/
def toChars (b : Bytes) : List Char := b.map fun x => Char.ofNat x.toNat

/-- A cursor at the beginning of a script. -/
def Cursor.ofBytes (b : Bytes) : Cursor := .atStart [] 1 (toChars b)

/-- The cursor with the text that a word stands for put in front of the rest.  A word does not stand
for anything within its own text. -/
def Cursor.standIn? (c : Cursor) (word : Bytes) : Option Cursor :=
  match c.aliases.lookup word with
  | none => none
  | some text =>
    let length := c.rest.length
    let endsBlank := text.getLast?.any fun x => x == ' ' || x == '\t'
    if c.putIn.any fun (name, outside, _) => name = word && outside ≤ length then none
    else some { c with rest := text ++ c.rest, putIn := (word, length, endsBlank) :: c.putIn }

/-- Whether the way from one cursor to another leads out of a text that ends with a blank and was
put in for a word: the word behind it may stand for a text again. -/
def Cursor.leaves (c after : Cursor) : Bool :=
  !c.putIn.isEmpty && c.putIn.any fun (_, outside, endsBlank) =>
    endsBlank && outside < c.rest.length && after.rest.length < outside

/-- Reading of a script. -/
abbrev Reader := StateT Cursor (Except SyntaxError)

/-- Gives up on the script. -/
def complain {α : Type} (reason : String) : Reader α := do throw ⟨(← get).line, reason⟩

/-- Gives up at a token, perhaps in place of another one. -/
def unexpected {α : Type} (t : Token) (wanted : Option Token) : Reader α :=
  complain <| t.name ++ " unexpected" ++ match wanted with
    | some w => " (expecting " ++ w.name ++ ")"
    | none => ""

/-- Reads a word that may be meant to end a text for a command. -/
def withEnding {α : Type} (inEnding : Bool) (reader : Reader α) : Reader α := do
  modify fun c => { c with inEnding }
  let a ← reader
  modify fun c => { c with inEnding := false }
  return a

/-- Skips ends of lines that a backslash takes away. -/
def skipJoints : (line : Nat) → List Char → Nat × List Char
  | line, '\\' :: '\n' :: r => skipJoints (line + 1) r
  | line, r => (line, r)

/-- The next character. -/
def peek : Reader (Option Char) := do
  let c ← get
  let (line, rest) := skipJoints c.line c.rest
  set { c with line, rest }
  return rest.head?

/-- Goes past the next character. -/
def skip : Reader Unit := modify fun c =>
  { c with
    rest := c.rest.tail
    line := if c.rest.head? = some '\n' then c.line + 1 else c.line }

/-- Reads from a cursor on.  The texts for commands stand behind the places where they are wanted,
so that they are found by a first reading and put in place by a second one. -/
def readTwice {α : Type} (reader : Reader α) (c : Cursor) : Except SyntaxError (α × Cursor) := do
  let (a, after) ← reader.run c
  if after.found.isEmpty then return (a, after)
  else reader.run { c with known := after.found }

/-- Goes past the next character if it is this one. -/
def skipIf (x : Char) : Reader Bool := do
  if (← peek) = some x then
    skip
    return true
  else return false

/-- Takes characters as long as they have a property. -/
def takeWhile (p : Char → Bool) : (fuel : Nat) → Reader (List Char)
  | 0 => return []
  | fuel + 1 => do
    match ← peek with
    | some c =>
      if p c then
        skip
        return c :: (← takeWhile p fuel)
      else return []
    | none => return []

/-! ### Words -/

/-- The characters that end a word. -/
def endsWord (c : Char) : Bool := " \t\n;&|<>()".toList.contains c

/-- The bytes that characters stand for. -/
def toBytes (l : List Char) : Bytes := l.map ascii

/-- What surrounds a part of a word. -/
inductive Context where
  | bare
  | doubleQuotes
  | braces (quoted : Bool)
  /-- A text in the script. -/
  | document
  /-- An arithmetic expression within so many parentheses. -/
  | arithmetic (depth : Nat)
  deriving Repr, DecidableEq

/-- Whether a context protects what is in it from being split. -/
def Context.quoted : Context → Bool
  | .bare => false
  | .braces quoted => quoted
  | .doubleQuotes | .document | .arithmetic _ => true

/-- Whether a character ends the part of a word that a context encloses. -/
def Context.endsAt (context : Context) (c : Char) : Bool :=
  match context with
  | .doubleQuotes => c == '"'
  | .braces _ => c == '\x7d'
  | _ => false

/-- Whether a backslash takes away the meaning of a character. -/
def Context.escapes (context : Context) (c : Char) : Bool :=
  match context with
  | .bare | .braces false => true
  | .doubleQuotes => "$`\"\\".toList.contains c
  | .braces true => "$`\"\\\x7d".toList.contains c
  | .document | .arithmetic _ => "$`\\".toList.contains c

/-- The parameter that a character right after a dollar sign stands for. -/
def special? (c : Char) : Option Param :=
  if c.isDigit then some (.position (c.toNat - 48))
  else
    [('@', Param.each), ('*', .joined), ('#', .count), ('?', .status), ('$', .self),
      ('!', .background), ('-', .options)].lookup c

/-- Puts an empty mark before quoted pieces, so that they make a word even if they are empty; but
all arguments may stand for no word at all. -/
def quotedPieces (inner : Word) : Word :=
  match inner with
  | [.value .each true] => inner
  | _ => .text [] true :: inner

/-- The text of a word without quotes or parameters. -/
def literal? : Word → Option Bytes
  | [] => some []
  | .text b false :: r => (literal? r).map (b ++ ·)
  | _ => none

/-- The text of a word, without its quotes. -/
def unquoted (w : Word) : Bytes :=
  w.flatMap fun
    | .text b _ => b
    | _ => []

/-- Whether anything in a word is quoted. -/
def isQuoted (w : Word) : Bool :=
  w.any fun
    | .text _ quoted => quoted
    | _ => false

/-- The name that a word assigns to, and the pieces of the value. -/
def assignment? (w : Word) : Option (Bytes × Word) :=
  let isPlain : Piece → Bool
    | .text _ quoted => !quoted
    | _ => false
  let front := w.takeWhile isPlain
  let bytes := unquoted front
  let name := bytes.takeWhile (· != ascii '=')
  if isName name && name.length < bytes.length then
    let value := (bytes.drop (name.length + 1)).map fun b => Piece.text [b] false
    some (name, value ++ w.drop front.length)
  else none

/-- The text of the backquoted commands at the front, up to the closing backquote. -/
def backquoted (quoted : Bool) : List Char → Option (List Char × List Char)
  | [] => none
  | '`' :: r => some ([], r)
  | '\\' :: c :: r =>
    (backquoted quoted r).map fun (text, rest) =>
      if c = '\\' || c = '$' || c = '`' || (c = '"' && quoted) then (c :: text, rest)
      else ('\\' :: c :: text, rest)
  | c :: r => (backquoted quoted r).map fun (text, rest) => (c :: text, rest)

/-- The lines of a text for a command, up to the line that ends it, and what follows that. -/
def documentLines (indented : Bool) (ending : List Char) : (fuel : Nat) → List Char →
    List (List Char) × List Char
  | 0, r => ([], r)
  | fuel + 1, r =>
    if r.isEmpty then ([], [])
    else
      let r := if indented then r.dropWhile (· == '\t') else r
      let line := r.takeWhile (· != '\n')
      let after := (r.drop line.length).tail
      if line = ending then ([], after)
      else
        let isComplete := line.length < r.length
        let (more, rest) := documentLines indented ending fuel after
        ((if isComplete then line ++ ['\n'] else line) :: more, rest)

/-- The names of the commands that a function must not have. -/
def specialNames : List String := [
  ".", ":", "break", "continue", "eval", "exec", "exit", "export", "readonly", "return", "set",
  "shift", "times", "trap", "unset"]

/-- How a list of commands may end. -/
inductive Extent where
  /-- With the line. -/
  | line
  /-- With a token that goes on with the command around it. -/
  | body
  /-- As before, and there may be no command at all. -/
  | optional
  deriving Repr, DecidableEq

mutual

/-- The pieces of a word, up to the end of what the context encloses. -/
def pieces : (fuel : Nat) → Context → Reader Word
  | 0, _ => complain "Unterminated quoted string"
  | fuel + 1, context => do
    match ← peek with
    | none =>
      match context with
      | .bare | .document => return []
      | .doubleQuotes =>
        if (← get).inDocument then complain "Missing '\x7d'"
        else complain "Unterminated quoted string"
      | .braces quoted =>
        if quoted && !(← get).inDocument then complain "Unterminated quoted string"
        else complain "Missing '\x7d'"
      | .arithmetic _ => complain "Missing '))'"
    | some c =>
      let plain : Reader Word := do
        return .text (toBytes [c]) context.quoted :: (← pieces fuel context)
      if context = .bare && endsWord c then return []
      else
        skip
        if context.endsAt c then return []
        else if c = '\\' then
          match (← get).rest with
          | [] => return .text (toBytes [c]) true :: (← pieces fuel context)
          | e :: _ =>
            skip
            let text := if context.escapes e then [e] else [c, e]
            return .text (toBytes text) true :: (← pieces fuel context)
        else if c = '\'' && !context.quoted then
          let inner := (← get).rest.takeWhile (· != '\'')
          modify fun s =>
            { s with rest := s.rest.drop inner.length, line := s.line + inner.count '\n' }
          if (← get).rest.isEmpty then complain "Unterminated quoted string"
          else
            skip
            return .text (toBytes inner) true :: (← pieces fuel context)
        else if c = '"' then
          match context with
          | .document | .arithmetic _ => plain
          | _ =>
            let inner ← pieces fuel .doubleQuotes
            return quotedPieces inner ++ (← pieces fuel context)
        else if (c = '`' || c = '$') && (← get).inEnding then plain
        else if c = '`' then
          let s ← get
          match backquoted context.quoted s.rest with
          | none =>
            set { s with line := s.line + s.rest.count '\n' }
            complain "EOF in backquote substitution"
          | some (text, rest) =>
            set { s with
              rest
              line := s.line + (s.rest.take (s.rest.length - rest.length)).count '\n' }
            match readTwice (readList fuel .optional) (.atStart s.aliases 1 text) with
            | .error e => throw e
            | .ok (body, _) => return .output body context.quoted :: (← pieces fuel context)
        else if c = '$' then
          let p ← dollar fuel context
          return p :: (← pieces fuel context)
        else
          match context with
          | .arithmetic depth =>
            if c = '(' then
              return .text (toBytes [c]) true :: (← pieces fuel (.arithmetic (depth + 1)))
            else if c = ')' && 0 < depth then
              return .text (toBytes [c]) true :: (← pieces fuel (.arithmetic (depth - 1)))
            else if c = ')' then
              if ← skipIf ')' then return [] else plain
            else plain
          | _ => plain

/-- What a dollar sign stands for. -/
def dollar : (fuel : Nat) → Context → Reader Piece
  | 0, _ => complain "Unterminated quoted string"
  | fuel + 1, context => do
    match ← peek with
    | some '(' =>
      skip
      if ← skipIf '(' then
        return .number (← pieces fuel (.arithmetic 0)) context.quoted
      else
        let before ← get
        modify fun s => { s with awaited := [], inDocument := false }
        let body ← readList fuel .optional
        let t ← token fuel false false false
        modify fun s => { s with awaited := before.awaited, inDocument := before.inDocument }
        match t with
        | .closing => return .output body context.quoted
        | t => unexpected t (some .closing)
    | some '\x7b' =>
      skip
      braced fuel context
    | some c =>
      if isNameStart c then
        let name ← takeWhile isNameChar (← get).rest.length
        return .value (.variable (toBytes name)) context.quoted
      else
        match special? c with
        | some p =>
          skip
          return .value p context.quoted
        | none => return .text (toBytes ['$']) context.quoted
    | none => return .text (toBytes ['$']) context.quoted

/-- A parameter in braces. -/
def braced : (fuel : Nat) → Context → Reader Piece
  | 0, _ => complain "Missing '\x7d'"
  | fuel + 1, context => do
    let meaningless : Reader Piece := do
      let _ ← pieces fuel (.braces context.quoted)
      return .meaningless
    let named : Reader (Option Param) := do
      match ← peek with
      | some c =>
        if isNameStart c then
          return some (.variable (toBytes (← takeWhile isNameChar (← get).rest.length)))
        else if c.isDigit then
          let digits ← takeWhile Char.isDigit (← get).rest.length
          return some (.position (digitsValue 10 (toBytes digits)))
        else return none
      | none => return none
    match ← named with
    | some p => modified fuel context p
    | none =>
      match ← peek with
      | none => complain "Missing '\x7d'"
      | some c =>
        match special? c with
        | none =>
          if c != '\x7d' then modify fun s => { s with rest := s.rest.tail }
          meaningless
        | some p =>
          skip
          if c = '#' then
            match ← named with
            | some p => if ← skipIf '\x7d' then return .size p context.quoted else meaningless
            | none =>
              match (← get).rest with
              | d :: '\x7d' :: _ =>
                match special? d with
                | some p =>
                  skip
                  skip
                  return .size p context.quoted
                | none => if d = '\x7d' then modified fuel context .count else meaningless
              | _ => modified fuel context .count
          else modified fuel context p

/-- What follows a parameter in braces. -/
def modified : (fuel : Nat) → Context → Param → Reader Piece
  | 0, _, _ => complain "Missing '\x7d'"
  | fuel + 1, context, p => do
    let inside := Context.braces context.quoted
    match ← peek with
    | none => complain "Missing '\x7d'"
    | some c =>
      if c = '\x7d' then
        skip
        return .value p context.quoted
      else if c = '%' || c = '#' then
        skip
        let longest ← skipIf c
        let pattern ← pieces fuel (.braces false)
        let t := if c = '%' then Trim.back longest else .front longest
        return .trimmed p t pattern context.quoted
      else
        let emptyToo ← skipIf ':'
        let ways := [('-', Alternative.absent), ('=', .assigned), ('?', .required), ('+', .present)]
        match ((← peek).bind fun c => ways.lookup c) with
        | some a =>
          skip
          return .alternative p a emptyToo (← pieces fuel inside) context.quoted
        | none =>
          let other ← peek
          modify fun s => { s with rest := s.rest.tail }
          let _ ← pieces fuel inside
          return if other = some '\x7d' then .value p context.quoted else .meaningless

/-- The next token.  Where `keys` says so, words may be keywords, and where `aliases` says so, they
may stand for other texts; where `lines` says so, ends of lines are passed over. -/
def token : (fuel : Nat) → (keys aliases lines : Bool) → Reader Token
  | 0, _, _, _ => return .endOfFile
  | fuel + 1, keys, aliases, lines => do
    let s ← get
    let t ← match s.pushed with
      | some t =>
        set { s with pushed := none }
        pure t
      | none => freshToken fuel
    let here ← get
    let aliases := aliases || (s.pushed.isNone && s.leaves here)
    match t with
    | .newline => if lines then token fuel keys aliases lines else return t
    | .word w =>
      match literal? w with
      | some b =>
        match if keys then keywords.find? fun k => Bytes.ofText k = b else none with
        | some k => return .keyword k
        | none =>
          match if aliases then here.standIn? b else none with
          | some inserted =>
            set inserted
            token fuel keys aliases lines
          | none => return t
      | none => return t
    | t => return t

/-- The token at the cursor. -/
def freshToken : (fuel : Nat) → Reader Token
  | 0 => return .endOfFile
  | fuel + 1 => do
    match ← peek with
    | none => return .endOfFile
    | some c =>
      if c = ' ' || c = '\t' then
        skip
        freshToken fuel
      else if c = '#' then
        modify fun s => { s with rest := s.rest.dropWhile (· != '\n') }
        freshToken fuel
      else if c = '\n' then
        skip
        for a in (← get).awaited do readDocument fuel a
        modify fun s => { s with awaited := [] }
        return .newline
      else if c = '&' then
        skip
        return if ← skipIf '&' then .both else .ampersand
      else if c = '|' then
        skip
        return if ← skipIf '|' then .either else .bar
      else if c = ';' then
        skip
        return if ← skipIf ';' then .endCase else .semicolon
      else if c = '(' then
        skip
        return .opening
      else if c = ')' then
        skip
        return .closing
      else if c = '<' || c = '>' then arrow none
      else
        let next := (← get).rest[1]?
        if c.isDigit && (next = some '<' || next = some '>') then
          skip
          arrow (some (c.toNat - 48))
        else return .word (← pieces fuel .bare)
where
  /-- A redirection arrow. -/
  arrow (descriptor : Option Nat) : Reader Token := do
    if ← skipIf '>' then
      if ← skipIf '>' then return .redirection descriptor (.write true false)
      else if ← skipIf '|' then return .redirection descriptor (.write false true)
      else if ← skipIf '&' then return .redirection descriptor .copy
      else return .redirection descriptor (.write false false)
    else
      skip
      if ← skipIf '<' then return .redirection descriptor (.document (← skipIf '-'))
      else if ← skipIf '&' then return .redirection (some (descriptor.getD 0)) .copy
      else if ← skipIf '>' then return .redirection descriptor .open
      else return .redirection descriptor .read

/-- A redirection behind its arrow. -/
def readRedirection : (fuel : Nat) → Option Nat → Arrow → Reader Redirection
  | 0, _, _ => complain "redirection unexpected"
  | fuel + 1, descriptor, a => do
    let t ← withEnding (a matches .document _) (token fuel false false false)
    match t with
    | .word w =>
      match a with
      | .write behind forced => return .write (descriptor.getD 1) w behind forced
      | .read => return .read (descriptor.getD 0) w
      | .open => return .open (descriptor.getD 0) w
      | .copy => return .copy (descriptor.getD 1) w
      | .document indented =>
        let s ← get
        let a := ⟨s.documents, toChars (unquoted w), indented, isQuoted w⟩
        set { s with documents := s.documents + 1, awaited := s.awaited ++ [a] }
        return .document (descriptor.getD 0) ((s.known.lookup a.number).getD [])
    | t => unexpected t none

/-- Reads a text for a command. -/
def readDocument : (fuel : Nat) → Awaited → Reader Unit
  | 0, _ => return ()
  | fuel + 1, a => do
    let s ← get
    let (lines, rest) := documentLines a.indented a.ending (s.rest.length + 1) s.rest
    let consumed := s.rest.take (s.rest.length - rest.length)
    let last := (consumed.reverse.takeWhile (· != '\n')).reverse.dropWhile (a.indented && · == '\t')
    let isLast := !a.ending.isEmpty && last = a.ending
    let line := s.line + consumed.count '\n' + if isLast then 1 else 0
    let text := lines.flatten
    let body ←
      if a.literal then pure [.text (toBytes text) true]
      else
        let inner := { Cursor.atStart s.aliases s.line text with inDocument := true }
        match readTwice (pieces fuel .document) inner with
        | .ok (body, _) => pure body
        | .error e =>
          let isAtEnd := e.line = s.line + text.count '\n'
          throw (if isAtEnd then { e with line } else e)
    set { s with rest, line, found := (a.number, body) :: s.found }

/-- Redirections, and then a token, which is read again. -/
def readRedirections : (fuel : Nat) → Reader (List Redirection)
  | 0 => return []
  | fuel + 1 => do
    match ← token fuel true true false with
    | .redirection descriptor a =>
      let r ← readRedirection fuel descriptor a
      return r :: (← readRedirections fuel)
    | t =>
      modify fun s => { s with pushed := some t }
      return []

/-- A list of commands. -/
def readList : (fuel : Nat) → Extent → Reader (Option Script)
  | 0, _ => return none
  | fuel + 1, extent => moreList fuel extent (extent = .optional) none

/-- A list of commands behind those already read; `mayEnd` says that there need be no more. -/
def moreList : (fuel : Nat) → Extent → (mayEnd : Bool) → Option Script → Reader (Option Script)
  | 0, _, _, before => return before
  | fuel + 1, extent, mayEnd, before => do
    let again (t : Token) : Reader Unit := modify fun s => { s with pushed := some t }
    match ← token fuel true true (extent != .line) with
    | .newline => return before
    | .endOfFile =>
      again .endOfFile
      return before
    | t =>
      again t
      if mayEnd && t.endsList then return before
      else
        let s ← readChain fuel
        let t ← token fuel false false false
        let s := match t with
          | .ampersand => .background s
          | _ => s
        let all := match before with
          | some b => Script.sequence b s
          | none => s
        match t with
        | .endOfFile =>
          again t
          return some all
        | .newline =>
          again t
          moreList fuel extent (extent != .line) (some all)
        | .ampersand | .semicolon => moreList fuel extent (extent != .line) (some all)
        | t =>
          if extent = .line then unexpected t none
          else
            again t
            return some all

/-- A list of commands that must hold one, and that this token is to follow. -/
def readBody : (fuel : Nat) → (follower : Token) → Reader Script
  | 0, follower => unexpected .endOfFile (some follower)
  | fuel + 1, follower => do
    match ← readList fuel .body with
    | some s => return s
    | none => unexpected (← token fuel true true true) (some follower)

/-- Commands joined by `&&` and `||`, from the left. -/
def readChain : (fuel : Nat) → Reader Script
  | 0 => complain "end of file unexpected"
  | fuel + 1 => do
    let first ← readPipeline fuel
    moreChain fuel first

/-- Further commands of a chain. -/
def moreChain : (fuel : Nat) → Script → Reader Script
  | 0, first => return first
  | fuel + 1, first => do
    match ← token fuel false false false with
    | .both => moreChain fuel (.both first (← readPipeline fuel))
    | .either => moreChain fuel (.either first (← readPipeline fuel))
    | t =>
      modify fun s => { s with pushed := some t }
      return first

/-- Commands joined by bars, perhaps negated. -/
def readPipeline : (fuel : Nat) → Reader Script
  | 0 => complain "end of file unexpected"
  | fuel + 1 => do
    match ← token fuel true true true with
    | .keyword "!" => return .negation (← readStages fuel)
    | t =>
      modify fun s => { s with pushed := some t }
      readStages fuel

/-- Commands joined by bars. -/
def readStages : (fuel : Nat) → Reader Script
  | 0 => complain "end of file unexpected"
  | fuel + 1 => do
    let first ← readCommand fuel false
    match ← moreStages fuel with
    | [] => return first
    | more => return .pipeline (first :: more)

/-- Further commands behind bars. -/
def moreStages : (fuel : Nat) → Reader (List Script)
  | 0 => return []
  | fuel + 1 => do
    match ← token fuel false false false with
    | .bar =>
      let s ← readCommand fuel true
      return s :: (← moreStages fuel)
    | t =>
      modify fun s => { s with pushed := some t }
      return []

/-- One command; `lines` says that ends of lines may go before it. -/
def readCommand : (fuel : Nat) → (lines : Bool) → Reader Script
  | 0, _ => complain "end of file unexpected"
  | fuel + 1, lines => do
    let t ← token fuel true true lines
    let line := (← get).line
    let wanted (k : String) : Reader Unit := do
      match ← token fuel true true false with
      | .keyword name =>
        if name = k then return ()
        else unexpected (.keyword name) (some (.keyword k))
      | t => unexpected t (some (.keyword k))
    let withRedirections (s : Script) : Reader Script := do
      match ← readRedirections fuel with
      | [] => return s
      | rs =>
        match s with
        | .redirected (.apart body) _ line => return .redirected (.apart body) rs line
        | s => return .redirected s rs line
    match t with
    | .keyword "if" =>
      withRedirections (← readBranch fuel)
    | .keyword "while" | .keyword "until" =>
      let condition ← readBody fuel (.keyword "do")
      wanted "do"
      let body ← readBody fuel (.keyword "done")
      wanted "done"
      let goesOn := match t with
        | .keyword "while" => true
        | _ => false
      withRedirections (.repeated goesOn condition body)
    | .keyword "for" =>
      let s ← readFor fuel line
      wanted "done"
      withRedirections s
    | .keyword "case" =>
      match ← token fuel false false false with
      | .word subject =>
        match ← token fuel true true true with
        | .keyword "in" =>
          let cases ← readCases fuel [.text (.ofText "in") false]
          withRedirections (.choice subject cases line)
        | t => unexpected t (some (.keyword "in"))
      | t => unexpected t (some (.word []))
    | .opening =>
      let body ← readBody fuel .closing
      match ← token fuel true true false with
      | .closing => withRedirections (.apart body)
      | t => unexpected t (some .closing)
    | .keyword "\x7b" =>
      let body ← readBody fuel (.keyword "\x7d")
      wanted "\x7d"
      withRedirections body
    | .word _ | .redirection .. =>
      modify fun s => { s with pushed := some t }
      readSimple fuel [] [] [] line
    | t => unexpected t none

/-- An `if` behind its first word, up to the word that ends it. -/
def readBranch : (fuel : Nat) → Reader Script
  | 0 => complain "end of file unexpected"
  | fuel + 1 => do
    let condition ← readBody fuel (.keyword "then")
    match ← token fuel true true false with
    | .keyword "then" =>
      let body ← readBody fuel (.keyword "fi")
      match ← token fuel true true false with
      | .keyword "fi" => return .branch condition body none
      | .keyword "else" =>
        let otherwise ← readBody fuel (.keyword "fi")
        match ← token fuel true true false with
        | .keyword "fi" => return .branch condition body (some otherwise)
        | t => unexpected t (some (.keyword "fi"))
      | .keyword "elif" => return .branch condition body (some (← readBranch fuel))
      | t => unexpected t (some (.keyword "fi"))
    | t => unexpected t (some (.keyword "then"))

/-- A `for` behind its first word, up to its body. -/
def readFor : (fuel line : Nat) → Reader Script
  | 0, _ => complain "Bad for loop variable"
  | fuel + 1, line => do
    match ← token fuel false false false with
    | .word w =>
      match literal? w with
      | some name =>
        if !isName name then complain "Bad for loop variable"
        else
          let words ← match ← token fuel true true true with
            | .keyword "in" => readWords fuel
            | .semicolon => pure [[Piece.value .each true]]
            | t =>
              modify fun s => { s with pushed := some t }
              pure [[Piece.value .each true]]
          match ← token fuel true true true with
          | .keyword "do" =>
            return .each name words (← readBody fuel (.keyword "done")) line
          | t => unexpected t (some (.keyword "do"))
      | none => complain "Bad for loop variable"
    | _ => complain "Bad for loop variable"

/-- Words up to the end of a line or a semicolon, which is left out. -/
def readWords : (fuel : Nat) → Reader (List Word)
  | 0 => return []
  | fuel + 1 => do
    match ← token fuel false false false with
    | .word w => return w :: (← readWords fuel)
    | .newline | .semicolon => return []
    | t => unexpected t none

/-- The cases of a choice behind a word, up to the word that ends it. -/
def readCases : (fuel : Nat) → (before : Word) → Reader (List (List Word × Option Script))
  | 0, _ => return []
  | fuel + 1, before => do
    match ← token fuel true false true with
    | .keyword "esac" => return []
    | t =>
      let t ← match t with
        | .opening => token fuel false false false
        | t => pure t
      let patterns ← readPatterns fuel before t
      let body ← readList fuel .optional
      match ← token fuel true false true with
      | .keyword "esac" => return [(patterns, body)]
      | .endCase => return (patterns, body) :: (← readCases fuel (patterns.getLastD before))
      | t => unexpected t (some .endCase)

/-- The patterns of a case from a token on, up to the closing parenthesis.  A mark in place of a
pattern stands for the word before it. -/
def readPatterns : (fuel : Nat) → (before : Word) → Token → Reader (List Word)
  | 0, _, t => unexpected t (some .closing)
  | fuel + 1, before, t => do
    let pattern : Word := match t with
      | .word w => w
      | .keyword name => [.text (.ofText name) false]
      | _ => before
    match ← token fuel false false false with
    | .bar =>
      let t ← token fuel false false false
      return pattern :: (← readPatterns fuel pattern t)
    | .closing => return [pattern]
    | t => unexpected t (some .closing)

/-- A simple command behind those of its parts that are already read, or a function. -/
def readSimple : (fuel : Nat) → List (Bytes × Word) → List Word → List Redirection → (line : Nat) →
    Reader Script
  | 0, assignments, words, redirections, line =>
    return .simple assignments words redirections line
  | fuel + 1, assignments, words, redirections, line => do
    match ← token fuel false words.isEmpty false with
    | .word w =>
      match if words.isEmpty then assignment? w else none with
      | some a => readSimple fuel (assignments ++ [a]) words redirections line
      | none => readSimple fuel assignments (words ++ [w]) redirections line
    | .redirection descriptor a =>
      let r ← readRedirection fuel descriptor a
      readSimple fuel assignments words (redirections ++ [r]) line
    | t =>
      let asIs : Reader Script := do
        modify fun s => { s with pushed := some t }
        return .simple assignments words redirections line
      match t, words with
      | .opening, [w] =>
        if assignments.isEmpty && redirections.isEmpty then
          match ← token fuel false false false with
          | .closing =>
            match literal? w with
            | some name =>
              let isSpecial := specialNames.any fun s => Bytes.ofText s = name
              if isName name && !isSpecial then return .function name (← readCommand fuel true)
              else complain "Bad function name"
            | none => complain "Bad function name"
          | t => unexpected t (some .closing)
        else asIs
      | _, _ => asIs

end

/-- The commands of the next line, if there are any, and the cursor behind them unless the text is
at its end. -/
def Cursor.readLine (c : Cursor) : Except SyntaxError (Option Script × Option Cursor) :=
  let growth := 1 + (c.aliases.map fun a => a.2.length).foldl Nat.add 0
  match readTwice (readList (20 * (c.rest.length + 5) * growth) .line) c with
  | .error e => .error e
  | .ok (s, after) =>
    match after.pushed with
    | some .endOfFile => .ok (s, none)
    | _ => .ok (s, some { after with documents := 0, awaited := [], found := [], known := [] })

end Script

end BuildDispatch.Host
