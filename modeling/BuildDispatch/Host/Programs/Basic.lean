import BuildDispatch.Host.Escapes
import BuildDispatch.Host.Files
import BuildDispatch.Host.Quoting
import BuildDispatch.Host.Variables

/-!
What a small program of the system is given, what it leaves behind, and how it reads its options.
-/

namespace BuildDispatch.Host

/-- What a program did. -/
structure Effect where
  status : Nat
  stdout : Bytes
  stderr : Bytes
  /-- The input that is left. -/
  stdin : Bytes
  files : Files
  deriving Repr, DecidableEq

/-- What a program is given. -/
structure Given where
  /-- The name that the program was called by, under which it complains. -/
  called : Bytes
  args : List Bytes
  env : Block
  stdin : Bytes
  files : Files

/-- Words with one space between them. -/
def spaced (l : List Bytes) : Bytes := (Bytes.ofText " ").intercalate l

/-- A line of text. -/
def line (s : String) : Bytes := .ofText (s ++ "\n")

/-- A program that is done; it has read nothing and left all files as they were. -/
def Given.done (g : Given) (status : Nat) (stdout stderr : Bytes) : Effect :=
  ⟨status, stdout, stderr, g.stdin, g.files⟩

/-- A complaint of a program that was called by this name. -/
def complaintOf (called complaint : Bytes) : Bytes :=
  called ++ .ofText ": " ++ complaint ++ .ofText "\n"

/-- Where to learn how a program is called. -/
def hint (called : Bytes) : Bytes :=
  .ofText "Try '" ++ called ++ .ofText " --help' for more information."

/-- A complaint about how a program was called. -/
def misuse (called complaint : Bytes) : Bytes :=
  complaintOf called complaint ++ hint called ++ .ofText "\n"

/-- A program that was called in a wrong way. -/
def Given.misused (g : Given) (status : Nat) (complaint : Bytes) : Effect :=
  g.done status [] (misuse g.called complaint)

/-- A program that has done nothing and complains. -/
def Given.refused (g : Given) (status : Nat) (complaint : Bytes) : Effect :=
  g.done status [] (complaintOf g.called complaint)

/-- Deals with words one after the other, on the files as the words before left them.  A word that
something is said against gives the program another status, and the words behind it go on. -/
def Given.forEach (g : Given) (failure : Nat) (words : List Bytes)
    (step : Files → Bytes → Except Bytes (Bytes × Files)) : Effect :=
  words.foldl (fun e word =>
    match step e.files word with
    | .ok (out, files) => { e with stdout := e.stdout ++ out, files }
    | .error complaint => { e with status := failure, stderr := e.stderr ++ complaint })
    (g.done 0 [] [])

/-- Whether the environment asks for the standard behaviour: options count only in front of the
other words, and a few programs have ways of their own. -/
def Given.isStandard (g : Given) : Bool := (g.env.lookup (.ofText "POSIXLY_CORRECT")).isSome

/-- The word that stands for the input. -/
def inputWord : Bytes := .ofText "-"

/-- Whether a word names the input. -/
def isInput (word : Bytes) : Bool := word = inputWord || descriptorOf? word = some 0

/-- The whole content of the file that the input comes from, if it comes from one. -/
def Given.inputFile (g : Given) : Option Bytes :=
  match g.files.streams.lookup 0 with
  | some (.file content) => some content
  | _ => none

/-- What is read under a name of the input, of which this much is left.  A path that leads to the
input opens its file again, if it comes from one, and reads it from the beginning. -/
def Given.inputUnder (g : Given) (word left : Bytes) : Bytes :=
  if word = inputWord then left else g.inputFile.getD left

/-- Whether reading under a name uses the input up. -/
def Given.usesUp (g : Given) (word : Bytes) : Bool :=
  word = inputWord || (isInput word && g.inputFile.isNone)

/-- What is left of the input when all that words name has been read. -/
def Given.leftBy (g : Given) (words : List Bytes) : Bytes :=
  if words.any g.usesUp then [] else g.stdin

namespace Programs

/-- What a program says against one of its words. -/
def objection (called : Bytes) (what : String) (word : Bytes) (reason : String) : Bytes :=
  complaintOf called (.ofText what ++ word ++ .ofText (": " ++ reason))

/-- The options that a program knows: letters without a value, with one, and with one only if it
follows in the same word; and long names for some of these letters. -/
structure OptionNames where
  plain : String
  valued : String
  attached : String
  long : List (String × Char)

/-- Options that were given, by their letters, with their values if they take any. -/
abbrev Options := List (UInt8 × Bytes)

/-- Whether an option was given. -/
def Options.has (o : Options) (letter : Char) : Bool := o.any (·.1 = ascii letter)

/-- The values of an option, as often as it was given. -/
def Options.values (o : Options) (letter : Char) : List Bytes :=
  (o.filter (·.1 = ascii letter)).map (·.2)

/-- The options of a word of letters, and the words left behind it; the value of an option is the
rest of its word, or else the next word. -/
def OptionNames.cluster (names : OptionNames) : Bytes → List Bytes →
    Except Bytes (Options × List Bytes)
  | [], rest => .ok ([], rest)
  | b :: letters, rest =>
    if (Bytes.ofText names.plain).contains b then
      (names.cluster letters rest).map fun (given, rest) => ((b, []) :: given, rest)
    else if (Bytes.ofText names.attached).contains b then .ok ([(b, letters)], rest)
    else if (Bytes.ofText names.valued).contains b then
      match letters, rest with
      | [], [] => .error (.ofText "option requires an argument -- " ++ inPlainQuotes [b])
      | [], value :: rest => .ok ([(b, value)], rest)
      | letters, rest => .ok ([(b, letters)], rest)
    else .error (.ofText "invalid option -- " ++ inPlainQuotes [b])

/-- The option of a long name, behind its hyphens, and the words left behind it.  A name may be cut
short. -/
def OptionNames.named (names : OptionNames) (word : Bytes) (rest : List Bytes) :
    Except Bytes (Options × List Bytes) :=
  let name := word.takeWhile (· != ascii '=')
  let isExact (n : String × Char) : Bool := Bytes.ofText n.1 = name
  let isCut (n : String × Char) : Bool := name.isPrefixOf (Bytes.ofText n.1)
  match (names.long.find? isExact).or (names.long.find? isCut) with
  | none => .error (.ofText "unrecognized option " ++ inPlainQuotes (.ofText "--" ++ word))
  | some (_, letter) =>
    if name.length = word.length && !names.valued.toList.contains letter then
      .ok ([(ascii letter, [])], rest)
    else if names.plain.toList.contains letter then
      .error (.ofText "option " ++ inPlainQuotes (.ofText "--" ++ name)
        ++ .ofText " doesn't allow an argument")
    else if name.length < word.length then .ok ([(ascii letter, word.drop (name.length + 1))], rest)
    else
      match rest with
      | [] => .error (.ofText "option " ++ inPlainQuotes (.ofText "--" ++ name)
          ++ .ofText " requires an argument")
      | value :: rest => .ok ([(ascii letter, value)], rest)

/-- The options among the words of a program, wherever they stand, and the other words; or a
complaint about an option.  Two hyphens end the options. -/
def OptionNames.read (names : OptionNames) : (fuel : Nat) → List Bytes →
    Except Bytes (Options × List Bytes)
  | 0, words => .ok ([], words)
  | _, [] => .ok ([], [])
  | fuel + 1, word :: rest => do
    let hyphens := Bytes.ofText "--"
    if word = hyphens then return ([], rest)
    else if word.head? != some (ascii '-') || word.length < 2 then
      let (given, others) ← names.read fuel rest
      return (given, word :: others)
    else
      let (own, rest) ←
        if hyphens.isPrefixOf word then names.named (word.drop 2) rest
        else names.cluster word.tail rest
      let (given, others) ← names.read fuel rest
      return (own ++ given, others)

/-- The options in front of the other words of a program, and those words. -/
def OptionNames.readFront (names : OptionNames) : (fuel : Nat) → List Bytes →
    Except Bytes (Options × List Bytes)
  | 0, words => .ok ([], words)
  | _, [] => .ok ([], [])
  | fuel + 1, word :: rest => do
    let hyphens := Bytes.ofText "--"
    if word = hyphens then return ([], rest)
    else if word.head? != some (ascii '-') || word.length < 2 then return ([], word :: rest)
    else
      let (own, rest) ←
        if hyphens.isPrefixOf word then names.named (word.drop 2) rest
        else names.cluster word.tail rest
      let (given, others) ← names.readFront fuel rest
      return (own ++ given, others)

/-- The options among words that a program is given, and the other words. -/
def OptionNames.among (names : OptionNames) (g : Given) (words : List Bytes) :
    Except Bytes (Options × List Bytes) :=
  if g.isStandard then names.readFront (words.length + 1) words
  else names.read (words.length + 1) words

/-- A program on its options and its other words, as they were read. -/
def onOptions (g : Given) (failure : Nat) (act : Given → Options → List Bytes → Effect) :
    Except Bytes (Options × List Bytes) → Effect
  | .ok (given, words) => act g given words
  | .error complaint => g.misused failure complaint

/-- A program on the options among its words and the other words. -/
def withOptions (names : OptionNames) (failure : Nat)
    (act : Given → Options → List Bytes → Effect) (g : Given) : Effect :=
  onOptions g failure act (names.among g g.args)

/-- The same, for a program whose options stand in front of its other words. -/
def withFrontOptions (names : OptionNames) (failure : Nat)
    (act : Given → Options → List Bytes → Effect) (g : Given) : Effect :=
  onOptions g failure act (names.readFront (g.args.length + 1) g.args)

/-- The same, for a program that needs a word to work on. -/
def withOperands (names : OptionNames) (operand : String)
    (act : Given → Options → List Bytes → Effect) : Given → Effect :=
  withOptions names 1 fun g given words =>
    if words.isEmpty then g.misused 1 (.ofText ("missing " ++ operand))
    else act g given words

/-- The content of what a word of a program names: a file, or the input. -/
def contentOf (g : Given) (files : Files) (word : Bytes) : Except OsError Bytes :=
  if isInput word then .ok (g.inputUnder word g.stdin)
  else
    match files.lookup word with
    | .ok (.file content) => .ok content
    | .ok .directory => .error .isADirectory
    | .ok (.program _) => .ok []
    | .error e => .error e

/-- The content of what a word of a program names, or what the program says against the word. -/
def readWord (g : Given) (what : String) (files : Files) (word : Bytes) : Except Bytes Bytes :=
  (contentOf g files word).mapError fun e =>
    objection g.called (if e = .isADirectory then "" else what) (shellName word) e.reason

/-- Prints something for each text that words name, one after the other; `read` gives the text, or
what is said against the word. -/
def eachText (failure : Nat) (words : List Bytes) (read : Given → Bytes → Except Bytes Bytes)
    (act : Bytes → Bytes → Bytes) (g : Given) : Effect :=
  words.foldl (fun e word =>
    let now := { g with stdin := e.stdin }
    match read now word with
    | .ok b => { e with stdout := e.stdout ++ act word b, stdin := now.leftBy [word] }
    | .error complaint => { e with status := failure, stderr := e.stderr ++ complaint })
    (g.done 0 [] [])

/-- Prints something for each text that the words of a program name, or for the input if there are
no words. -/
def perText (failure : Nat) (words : List Bytes) (act : Bytes → Bytes → Bytes)
    (g : Given) : Effect :=
  let words := if words.isEmpty then [inputWord] else words
  eachText failure words (fun g word => readWord g "" g.files word) act g

/-- Prints something for all the texts together that the words of a program name, or for the
input. -/
def wholeText (failure : Nat) (words : List Bytes) (act : Bytes → Bytes) (g : Given) : Effect :=
  let e := perText failure words (fun _ b => b) g
  { e with stdout := act e.stdout }

/-- The lines of a text, each with its end. -/
def lines (b : Bytes) : List Bytes :=
  ((splitOn (ascii '\n') b).dropLast.map (· ++ .ofText "\n")) ++
    ((splitOn (ascii '\n') b).getLast?.filter (!·.isEmpty)).toList

/-- A line without its end. -/
def bare (line : Bytes) : Bytes :=
  if line.getLast? = some (ascii '\n') then line.dropLast else line

/-- The lines of a text without their ends. -/
def bareLines (b : Bytes) : List Bytes := (lines b).map bare

/-- The parts of a text that a byte ends; the last one may have no end. -/
def rowsBy (ending : UInt8) (b : Bytes) : List Bytes :=
  let parts := splitOn ending b
  if parts.getLast? = some [] then parts.dropLast else parts

/-- Lines with ends. -/
def ofLines (l : List Bytes) : Bytes := l.flatMap (· ++ Bytes.ofText "\n")

/-- A number, filled up with blanks at its front. -/
def padded (width : Nat) (n : Nat) : String :=
  String.ofList (List.replicate (width - (toString n).length) ' ') ++ toString n

/-- The natural number that digits spell. -/
def natural? (b : Bytes) : Option Nat :=
  if !b.isEmpty && b.all isDecimal then some (digitsValue 10 b) else none

/-- The whole number that a word spells. -/
def integer? (b : Bytes) : Option Int :=
  match b with
  | 0x2D :: digits => (natural? digits).map fun n => -(n : Int)
  | digits => (natural? digits).map fun n => (n : Int)

end Programs

end BuildDispatch.Host
