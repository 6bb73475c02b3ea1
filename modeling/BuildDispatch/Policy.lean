import BuildDispatch.Environment

/-!
Action policies: what is added to a plain tool invocation for one action.  A table maps action names
to policies; an action it does not list resolves to the empty policy and is forwarded untouched.
-/

namespace BuildDispatch

/-- Environment overrides and extra arguments for one action. -/
structure ActionPolicy where
  /-- Applied in order; a variable may occur more than once. -/
  env : List EnvOverride
  /-- Put between the action and the user's own arguments. -/
  args : List String
  deriving Repr, DecidableEq

namespace ActionPolicy

/-- The policy that adds nothing. -/
def empty : ActionPolicy := ⟨[], []⟩

instance : Inhabited ActionPolicy := ⟨empty⟩

/-- Whether a policy adds nothing. -/
def isEmpty (p : ActionPolicy) : Bool := p.env.isEmpty && p.args.isEmpty

/-- The policy with one more override, applied last. -/
def withOverride (p : ActionPolicy) (o : EnvOverride) : ActionPolicy :=
  { p with env := p.env ++ [o] }

/-- The policy with one more override that replaces a variable. -/
def set (p : ActionPolicy) (name value : String) : ActionPolicy :=
  p.withOverride ⟨name, value, .set⟩

/-- The policy with one more override that extends a variable. -/
def append (p : ActionPolicy) (name value : String) : ActionPolicy :=
  p.withOverride ⟨name, value, .append⟩

/-- The policy with further arguments at the end. -/
def withArgs (p : ActionPolicy) (args : List String) : ActionPolicy :=
  { p with args := p.args ++ args }

theorem isEmpty_iff (p : ActionPolicy) : p.isEmpty = true ↔ p = empty := by
  cases p
  simp [isEmpty, empty]

end ActionPolicy

/-- Policies by action name.  Names match exactly and in their letter case. -/
abbrev PolicyTable := SortedMap String ActionPolicy

namespace PolicyTable

/-- The policy of an action, the empty one if the table does not list it. -/
def resolve (t : PolicyTable) (action : String) : ActionPolicy :=
  (t.get? action).getD .empty

/-- The listed actions, in bytewise order. -/
def actions (t : PolicyTable) : List String := t.keys

theorem resolve_insert (t : PolicyTable) (action : String) (p : ActionPolicy) (name : String) :
    PolicyTable.resolve (t.insert action p) name = if action = name then p else t.resolve name := by
  unfold resolve
  rw [SortedMap.get?_insert]
  split <;> rfl

end PolicyTable

end BuildDispatch
