import BuildDispatch.Host.Programs.Basic
import BuildDispatch.Host.Search

/-!
Programs that say what a run has around it: the system, the terminal, the place of programs.
-/

namespace BuildDispatch.Host.Programs

/-- Prints the paths of programs along the search path; of each the first one, or all. -/
def locate (g : Given) : Effect :=
  let hyphens := Bytes.ofText "--"
  let isOption (w : Bytes) : Bool := w.head? = some (ascii '-') && 1 < w.length && w != hyphens
  let options := g.args.takeWhile isOption
  let rest := g.args.drop options.length
  let names := if rest.head? = some hyphens then rest.tail else rest
  let letters := options.flatMap (·.tail)
  let all := letters.contains (ascii 'a')
  let isSilent := letters.contains (ascii 's')
  let directories := splitOn (ascii ':') ((g.env.lookup (.ofText "PATH")).getD [])
  let isProgram (path : Bytes) : Bool := (programAt g.files path path).isOk
  let found (name : Bytes) : List Bytes :=
    let paths := if name.contains slash then [name]
      else directories.map fun d => (if d.isEmpty then .ofText "." else d) ++ slash :: name
    let paths := paths.filter isProgram
    if all then paths else paths.take 1
  match letters.find? fun b => !(Bytes.ofText "as").contains b with
  | some b =>
    let complaint : Bytes := .ofText "Illegal option -" ++ [b] ++ line ""
    g.done 2 (line "Usage: /usr/bin/which [-as] args") complaint
  | none =>
    g.done (if !names.isEmpty && names.all (fun n => !(found n).isEmpty) then 0 else 1)
      (if isSilent then [] else ofLines (names.flatMap found)) []

/-- Says that there is no terminal. -/
def terminal : Given → Effect :=
  withOptions ⟨"s", "", "", [("quiet", 's'), ("silent", 's')]⟩ 2 fun g o words =>
    match words with
    | [] => g.done 1 (if o.has 's' then [] else line "not a tty") []
    | w :: _ => g.misused 2 (.ofText "extra operand " ++ inQuotes w)

/-- Prints the names of the system. -/
def system : Given → Effect :=
  withOptions ⟨"smo", "", "", [("kernel-name", 's'), ("machine", 'm'),
    ("operating-system", 'o')]⟩ 1 fun g o words =>
    match words with
    | w :: _ => g.misused 1 (.ofText "extra operand " ++ inQuotes w)
    | [] =>
      let asked := [('s', "Linux"), ('m', "x86_64"), ('o', "GNU/Linux")].filter fun x =>
        o.has x.1 || (o.isEmpty && x.1 = 's')
      g.done 0 (line (" ".intercalate (asked.map (·.2)))) []

/-- Prints the working directory. -/
def showPlace : Given → Effect := withOptions ⟨"LP", "", "", []⟩ 1 fun g _ _ =>
  g.done 0 (g.files.here.absolute ++ line "") []

end BuildDispatch.Host.Programs
