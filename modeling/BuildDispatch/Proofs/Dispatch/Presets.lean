import BuildDispatch.Dispatch
import BuildDispatch.Proofs.Environment.Merge
import BuildDispatch.Proofs.Policy.History

/-! What the presets do to an environment.  They bound the test threads for the action `test`, and
add flags for the compiler behind those that are there; nothing else is changed, and an action that
a preset does not list is passed on as it is. -/

namespace BuildDispatch

namespace EnvOverride

/-- A fragment behind the value that is there, if there is one that is not empty. -/
def behind (fragment : Bytes) : Option Bytes → Bytes
  | none | some [] => fragment
  | some before => before ++ .ofText " " ++ fragment

theorem isPrefix_behind (fragment before : Bytes) : before <+: behind fragment (some before) := by
  cases before with
  | nil => exact List.nil_prefix
  | cons b r =>
    change b :: r <+: b :: r ++ Bytes.ofText " " ++ fragment
    rw [List.append_assoc]
    exact List.prefix_append _ _

theorem result_append (name value : String) (before : Option Bytes) :
    EnvOverride.result ⟨name, value, .append⟩ before = behind (.ofText value) before := by
  rcases before with _ | _ | ⟨b, r⟩ <;> rfl

theorem result_set (name value : String) (before : Option Bytes) :
    EnvOverride.result ⟨name, value, .set⟩ before = .ofText value := rfl

end EnvOverride

namespace Environment

/-- An override that is applied under a condition. -/
theorem get?_merge_ite (condition : Prop) [Decidable condition] (o : EnvOverride)
    (env : Environment) (name : Bytes) :
    (env.merge (if condition then [o] else [])).get? name =
      if condition ∧ .ofText o.name = name then some (o.result (env.get? name))
      else env.get? name := by
  by_cases hCondition : condition
  · have hApply : env.merge (if condition then [o] else []) = env.apply o := by
      rw [if_pos hCondition]
      rfl
    rw [hApply, get?_apply, EnvOverride.key]
    by_cases hName : .ofText o.name = name
    · simp [hCondition, hName]
    · simp [hName]
  · simp [hCondition]

end Environment

namespace Preset

open EnvOverride (behind)

/-- The flags that a preset adds. -/
def flags : Preset → String
  | .swym | .rbtree => native
  | .htm => nativeTransactional

/-- The actions for which a preset adds its flags. -/
def addsFlags : Preset → String → Bool
  | .swym, action | .rbtree, action => action = "bench"
  | .htm, action => action = "test" || action = "doc" || action = "bench"

/-- The overrides of a preset for an action. -/
def overrides (p : Preset) (action : String) : List EnvOverride :=
  (if action = "test" then [⟨testThreads, "1", .set⟩] else []) ++
    if p.addsFlags action then [⟨compilerFlags, p.flags, .append⟩] else []

theorem mem_actions_table {p : Preset} {action : String} :
    action ∈ p.table.actions ↔ action = "test" ∨ action = "bench" ∨ p = .htm ∧ action = "doc" := by
  have hSwym : Preset.swym.table.actions = ["bench", "test"] := by decide
  have hHtm : Preset.htm.table.actions = ["bench", "doc", "test"] := by decide
  have hRbtree : Preset.rbtree.table.actions = ["bench", "test"] := by decide
  cases p with
  | swym => simp [hSwym, or_comm]
  | htm =>
    simp only [hHtm, List.mem_cons, List.not_mem_nil, or_false, true_and]
    tauto
  | rbtree => simp [hRbtree, or_comm]

theorem env_resolve_table (p : Preset) (action : String) :
    (p.table.resolve action).env = p.overrides action := by
  by_cases hListed : action ∈ p.table.actions
  · rcases mem_actions_table.mp hListed with rfl | rfl | ⟨rfl, rfl⟩
    · cases p <;> decide
    · cases p <;> decide
    · decide
  · rw [PolicyTable.resolve_eq_empty hListed]
    rw [mem_actions_table, not_or, not_or] at hListed
    obtain ⟨hTest, hBench, hDoc⟩ := hListed
    cases p with
    | swym | rbtree => simp [overrides, addsFlags, ActionPolicy.empty, hTest, hBench]
    | htm =>
      have hDoc : action ≠ "doc" := by simpa using hDoc
      simp [overrides, addsFlags, ActionPolicy.empty, hTest, hBench, hDoc]

/-- The command for a request under a preset alone. -/
def command (p : Preset) (request : Request) (inherited : Environment) : Command :=
  .compose (Config.default.toolFor p) request (p.table.resolve request.action) inherited

/-- The command `c` for a request differs from a plain one by what the preset adds only. -/
structure OnlyAdds (p : Preset) (request : Request) (inherited : Environment) (c : Command) :
    Prop where
  /-- It is the command of a run without a configuration. -/
  ofRun : c = Dispatch.commandFor .default p request inherited
  others : ∀ name, name ≠ .ofText testThreads → name ≠ .ofText compilerFlags →
    c.env.get? name = inherited.get? name
  flags : c.env.get? (.ofText compilerFlags) =
    if p.addsFlags request.action then
      some (behind (.ofText p.flags) (inherited.get? (.ofText compilerFlags)))
    else inherited.get? (.ofText compilerFlags)
  /-- No flags are lost. -/
  kept : ∀ before, inherited.get? (.ofText compilerFlags) = some before →
    ∃ after, c.env.get? (.ofText compilerFlags) = some after ∧ before <+: after
  threads : c.env.get? (.ofText testThreads) =
    if request.action = "test" then some (.ofText "1") else inherited.get? (.ofText testThreads)
  listed : ∀ action, action ∈ p.table.actions ↔
    action = "test" ∨ action = "bench" ∨ p = .htm ∧ action = "doc"
  unlisted : request.action ∉ p.table.actions →
    c.env = inherited ∧
      c.argv = [.ofText "cargo"] ++ p.toolchain.toList.map (fun name => .ofText ("+" ++ name)) ++
        [.ofText request.action] ++ request.trailing

theorem threads_ne_flags : Bytes.ofText testThreads ≠ .ofText compilerFlags := by decide

/-- Every variable of a command under a preset alone. -/
theorem get?_env_command (p : Preset) (request : Request) (inherited : Environment)
    (name : Bytes) :
    (p.command request inherited).env.get? name =
      if p.addsFlags request.action = true ∧ .ofText compilerFlags = name then
        some (behind (.ofText p.flags) (inherited.get? name))
      else if request.action = "test" ∧ .ofText testThreads = name then some (.ofText "1")
      else inherited.get? name := by
  have hEnv : (p.command request inherited).env =
      inherited.merge (p.table.resolve request.action).env := rfl
  rw [hEnv, env_resolve_table, overrides, Environment.merge_append,
    Environment.get?_merge_ite, Environment.get?_merge_ite, EnvOverride.result_append,
    EnvOverride.result_set]
  by_cases hFlags : .ofText compilerFlags = name
  · have hThreads : .ofText testThreads ≠ name := hFlags ▸ threads_ne_flags
    simp only [hThreads, and_false, if_false]
  · simp only [hFlags, and_false, if_false]

/-- A preset takes nothing away: it bounds the threads of tests, extends the flags for the compiler,
and leaves actions that it does not list alone. -/
theorem command_onlyAdds (p : Preset) (request : Request) (inherited : Environment) :
    OnlyAdds p request inherited (p.command request inherited) where
  ofRun := rfl
  others := fun name hThreads hFlags => by
    rw [get?_env_command, if_neg fun h => hFlags h.2.symm, if_neg fun h => hThreads h.2.symm]
  flags := by
    rw [get?_env_command]
    simp [threads_ne_flags]
  kept := fun before hBefore => by
    rw [get?_env_command, hBefore]
    by_cases hAdds : p.addsFlags request.action = true
    · exact ⟨_, if_pos ⟨hAdds, rfl⟩, EnvOverride.isPrefix_behind _ before⟩
    · refine ⟨before, ?_, List.prefix_refl before⟩
      rw [if_neg fun h => hAdds h.1, if_neg fun h => threads_ne_flags h.2]
  threads := by
    rw [get?_env_command, if_neg fun h => threads_ne_flags h.2.symm]
    simp
  listed := fun _ => mem_actions_table
  unlisted := fun hUnlisted => by
    have hPolicy : p.table.resolve request.action = .empty := PolicyTable.resolve_eq_empty hUnlisted
    constructor
    · rw [command, hPolicy]
      rfl
    · rw [command, hPolicy]
      cases p <;> rfl

/-- Flags are added behind a space, and the bound on the threads of the caller gives way. -/
example :
    let inherited := .ofList [(.ofText "RUSTFLAGS", .ofText "-g"),
      (.ofText "RUST_TEST_THREADS", .ofText "8")]
    (Preset.htm.command ⟨"test", []⟩ inherited).env = .ofList [
      (.ofText "RUSTFLAGS", .ofText "-g -Ctarget-feature=+rtm -Ctarget-cpu=native"),
      (.ofText "RUST_TEST_THREADS", .ofText "1")] := by
  decide +kernel

end Preset

end BuildDispatch
