import BuildDispatch.Policy

/-!
Composed commands.  The argument vector is the program, the toolchain token if a toolchain is in
force, the action, the arguments of its policy and the user's arguments, the last untouched.  The
environment is the inherited one after the overrides of the policy; `overridden` lists their names
in the order in which they first occur.
-/

namespace BuildDispatch

/-- The program that receives the action, with the toolchain it is asked to use. -/
structure Tool where
  program : Bytes
  toolchain : Option String
  deriving Repr, DecidableEq

/-- The tool when nothing else is configured. -/
def Tool.default : Tool := ⟨.ofText "cargo", none⟩

/-- The arguments that select the toolchain of a tool. -/
def Tool.selector (t : Tool) : List Bytes :=
  (t.toolchain.map fun name => Bytes.ofText ("+" ++ name)).toList

/-- An action and the user's own arguments to it. -/
structure Request where
  action : String
  trailing : List Bytes
  deriving Repr, DecidableEq

/-- The argument vector and environment of one process. -/
structure Command where
  program : Bytes
  /-- The arguments in front of the action. -/
  leading : List Bytes
  action : Bytes
  /-- The arguments behind the action. -/
  rest : List Bytes
  env : Environment
  /-- Names of the variables the policy touched, each once, in the order of their first override. -/
  overridden : List Bytes
  deriving DecidableEq

namespace Command

/-- The command for a request under a policy. -/
def compose (tool : Tool) (request : Request) (policy : ActionPolicy) (inherited : Environment) :
    Command where
  program := tool.program
  leading := tool.selector
  action := .ofText request.action
  rest := policy.args.map Bytes.ofText ++ request.trailing
  env := inherited.merge policy.env
  overridden := (policy.env.map EnvOverride.key).eraseDups

/-- The arguments after the program. -/
def args (c : Command) : List Bytes := c.leading ++ c.action :: c.rest

/-- The full argument vector. -/
def argv (c : Command) : List Bytes := c.program :: c.args

/-- The place of the action among the arguments. -/
def actionIndex (c : Command) : Nat := c.leading.length

/-- The action stands at its place. -/
theorem args_actionIndex (c : Command) : c.args[c.actionIndex]? = some c.action := by
  simp [args, actionIndex]

/-- The value of a variable in the environment of the process. -/
def envVar (c : Command) (name : String) : Option Bytes := c.env.get? (.ofText name)

end Command

end BuildDispatch
