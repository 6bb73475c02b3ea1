import BuildDispatch.Bytes

/-!
The variables of a shell.  They are kept in the order in which the shell met them, because programs
get theirs in an order that depends on it: the names are spread over shelves, and programs see the
variables shelf by shelf, on each shelf as they came.
-/

namespace BuildDispatch.Host

/-- A block of variables as a process is given it, in order. -/
abbrev Block := List (Bytes × Bytes)

/-- The block with a variable set: in its place if it has one, and else behind all others. -/
def Block.put (block : Block) (name value : Bytes) : Block :=
  if block.any (·.1 = name) then block.map fun e => if e.1 = name then (name, value) else e
  else block ++ [(name, value)]

/-- The shelf of a name, of so many. -/
def shelf (count : Nat) (name : Bytes) : Nat :=
  ((name.headD 0).toNat * 16 + (name.map UInt8.toNat).foldl Nat.add 0) % count

/-- A list in the order of so many shelves; what is on one shelf stays in order. -/
def byShelf {α : Type} (count : Nat) (name : α → Bytes) (l : List α) : List α :=
  l.mergeSort fun a b => shelf count (name a) ≤ shelf count (name b)

/-- How many shelves there are for variables, and as many for aliases. -/
def shelfCount : Nat := 39

/-- A variable of a shell. -/
structure Variable where
  name : Bytes
  /-- The value, if it has one; a variable can be marked before it gets one. -/
  value : Option Bytes
  /-- Whether programs see it. -/
  isExported : Bool
  /-- Whether it may not change any more. -/
  isFixed : Bool
  deriving Repr, DecidableEq

/-- The variables of a shell, in the order in which it met them; no name occurs twice. -/
abbrev Variables := List Variable

namespace Variables

/-- The variables that every shell has, with the values they begin with. -/
def standing : List (String × Option String) := [
  ("OPTIND", some "1"), ("PS4", some "+ "), ("PS2", some "> "), ("PS1", some "# "),
  ("PATH", some "/usr/local/sbin:/usr/local/bin:/usr/sbin:/usr/bin:/sbin:/bin"),
  ("MAILPATH", none), ("MAIL", none), ("IFS", some " \t\n")]

/-- Whether every shell has a variable of this name. -/
def isStanding (name : Bytes) : Bool := standing.any fun s => Bytes.ofText s.1 = name

/-- The variables of a shell that has just begun. -/
def initial : Variables :=
  standing.map fun (name, value) => ⟨.ofText name, value.map Bytes.ofText, false, false⟩

/-- The variable of a name. -/
def find? (vars : Variables) (name : Bytes) : Option Variable := List.find? (·.name = name) vars

/-- The value of the variable of a name. -/
def get? (vars : Variables) (name : Bytes) : Option Bytes := (vars.find? name).bind Variable.value

/-- Whether the variable of a name may not change. -/
def isFixed (vars : Variables) (name : Bytes) : Bool := (vars.find? name).any Variable.isFixed

/-- Changes the variable of a name; a name that is new comes behind all others. -/
def change (vars : Variables) (name : Bytes) (f : Variable → Variable) : Variables :=
  if (vars.find? name).isSome then vars.map fun v => if v.name = name then f v else v
  else vars ++ [f ⟨name, none, false, false⟩]

/-- Gives the variable of a name a value. -/
def insert (vars : Variables) (name value : Bytes) : Variables :=
  vars.change name fun v => { v with value := some value }

/-- Lets programs see the variable of a name. -/
def expose (vars : Variables) (name : Bytes) : Variables :=
  vars.change name fun v => { v with isExported := true }

/-- Keeps the variable of a name from changing. -/
def fix (vars : Variables) (name : Bytes) : Variables :=
  vars.change name fun v => { v with isFixed := true }

/-- Takes the variable of a name away; one that every shell has only loses its value. -/
def erase (vars : Variables) (name : Bytes) : Variables :=
  if isStanding name then vars.change name fun v => { v with value := none }
  else vars.filter (·.name != name)

/-- Makes the variable of a name what it was, if it was anything. -/
def restore (vars : Variables) : Bytes × Option Variable → Variables
  | (name, some before) => vars.change name fun _ => before
  | (name, none) => vars.filter (·.name != name)

/-- Lets programs see the variables that have another value than before. -/
def exposeChanges (vars before : Variables) : Variables :=
  vars.map fun v => if before.get? v.name = v.value then v else { v with isExported := true }

/-- The variables in the order of their names. -/
def byName (vars : Variables) : Variables := vars.mergeSort fun a b => decide (a.name ≤ b.name)

/-- What programs are given of the variables. -/
def block (vars : Variables) : Block :=
  byShelf shelfCount Prod.fst <| vars.filterMap fun v =>
    if v.isExported then v.value.map (v.name, ·) else none

end Variables

end BuildDispatch.Host
