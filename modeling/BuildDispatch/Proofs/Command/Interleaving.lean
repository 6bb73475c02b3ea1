import BuildDispatch.Proofs.Command.Overridden
import Mathlib.Data.List.Pairwise

/-! Policies that list the same overrides in another order.  The overrides of one variable act on
each other and keep their order, while those of different variables may stand in any order: what is
run does not change, and only the order in which variables are first mentioned shows in a
command. -/

namespace BuildDispatch

section FirstOccurrences

variable {α : Type} [BEq α] [LawfulBEq α]

/-- The order of first occurrences is the order in which they are listed. -/
theorem idxOf_lt_iff_of_eraseDups_eq {l m : List α}
    (h : l.eraseDups = m.eraseDups) (a b : α) :
    l.idxOf a < l.idxOf b ↔ m.idxOf a < m.idxOf b := by
  have hMem : ∀ c, c ∈ l ↔ c ∈ m := by
    intro c
    rw [← List.mem_eraseDups, h, List.mem_eraseDups]
  by_cases ha : a ∈ l
  · by_cases hb : b ∈ l
    · -- Whichever of two elements is listed first occurs first, and that in both lists.
      have hInl := pairwise_idxOf_eraseDups l
      have hInm := pairwise_idxOf_eraseDups m
      rw [← h] at hInm
      have hBoth := hInl.and hInm
      refine List.Pairwise.forall_of_forall_of_flip
        (R := fun c d => l.idxOf c < l.idxOf d ↔ m.idxOf c < m.idxOf d)
        (fun _ _ => by simp) (hBoth.imp fun ⟨hl, hm⟩ => iff_of_true hl hm)
        (hBoth.imp fun ⟨hl, hm⟩ => iff_of_false (Nat.lt_asymm hl) (Nat.lt_asymm hm))
        (List.mem_eraseDups.mpr ha) (List.mem_eraseDups.mpr hb)
    · rw [List.idxOf_of_notMem hb, List.idxOf_of_notMem (mt (hMem b).mpr hb)]
      exact iff_of_true (List.idxOf_lt_length_of_mem ha)
        (List.idxOf_lt_length_of_mem ((hMem a).mp ha))
  · rw [List.idxOf_of_notMem ha, List.idxOf_of_notMem (mt (hMem a).mpr ha)]
    exact iff_of_false (Nat.not_lt.mpr List.idxOf_le_length) (Nat.not_lt.mpr List.idxOf_le_length)

/-- Lists of the same elements have the same first occurrences exactly if the elements occur first
in the same order. -/
theorem eraseDups_eq_iff {l m : List α} (hMem : ∀ a, a ∈ l ↔ a ∈ m) :
    l.eraseDups = m.eraseDups ↔
      ∀ a b, l.idxOf a < l.idxOf b ↔ m.idxOf a < m.idxOf b := by
  refine ⟨idxOf_lt_iff_of_eraseDups_eq, fun h => ?_⟩
  have hInl := pairwise_idxOf_eraseDups l
  have hInm := (pairwise_idxOf_eraseDups m).imp fun {a b} hLess => (h a b).mpr hLess
  have : Std.Irrefl fun a b => l.idxOf a < l.idxOf b := ⟨fun _ => Nat.lt_irrefl _⟩
  have : Std.Antisymm fun a b => l.idxOf a < l.idxOf b :=
    ⟨fun _ _ hLess hMore => absurd hMore (Nat.lt_asymm hLess)⟩
  refine hInl.eq_of_mem_iff hInm fun a => ?_
  rw [List.mem_eraseDups, List.mem_eraseDups, hMem]

end FirstOccurrences

open Environment (overridesOf)

namespace ActionPolicy

/-- The policies have the same arguments and the same overrides of every variable, which may be
interleaved differently with those of other variables. -/
structure Interleaved (p q : ActionPolicy) : Prop where
  args : p.args = q.args
  overrides : ∀ name, overridesOf name p.env = overridesOf name q.env

/-- The variable `a` is overridden, and for the first time before `b` is. -/
def TouchesFirst (p : ActionPolicy) (a b : Bytes) : Prop :=
  (p.env.map EnvOverride.key).idxOf a < (p.env.map EnvOverride.key).idxOf b

theorem Interleaved.mem_keys {p q : ActionPolicy} (h : p.Interleaved q) (name : Bytes) :
    name ∈ p.env.map EnvOverride.key ↔ name ∈ q.env.map EnvOverride.key := by
  have hListed : ∀ r : ActionPolicy,
      name ∈ r.env.map EnvOverride.key ↔ overridesOf name r.env ≠ [] := by
    intro r
    rw [Ne, Environment.overridesOf_eq_nil]
    simp
  rw [hListed, hListed, h.overrides]

end ActionPolicy

/-- Only the order of the overrides of each variable counts for an environment. -/
theorem Environment.merge_congr {os ps : List EnvOverride}
    (h : ∀ name, overridesOf name os = overridesOf name ps) (env : Environment) :
    env.merge os = env.merge ps := by
  apply SortedMap.ext
  intro name
  rw [get?_merge, get?_merge, h]

namespace Command

open ActionPolicy (Interleaved TouchesFirst)

/-- The assignment of a value to a variable as renderings show it. -/
def shownAs (assignment : Bytes × Bytes) : List Char :=
  assignment.1.lossyText.toList ++ '=' :: quoted assignment.2

/-- The commands `c` and `d` of two policies with interleaved overrides differ at most in the order
in which they show the variables. -/
structure Reordered (p q : ActionPolicy) (c d : Command) : Prop where
  program : c.program = d.program
  argv : c.argv = d.argv
  env : c.env = d.env
  shown : ∃ assignments assignments' : List (Bytes × Bytes), assignments.Perm assignments' ∧
    assignments.map (·.1) = c.overridden ∧ assignments'.map (·.1) = d.overridden ∧
    (∀ a ∈ assignments, c.env.get? a.1 = some a.2) ∧
    c.render = .ofList ([' '].intercalate (assignments.map shownAs ++ c.argv.map quoted)) ∧
    d.render = .ofList ([' '].intercalate (assignments'.map shownAs ++ c.argv.map quoted))
  equal : c = d ↔ ∀ a b, TouchesFirst p a b ↔ TouchesFirst q a b

theorem render_eq_valuesOf (c : Command) :
    c.render = .ofList ([' '].intercalate
      ((c.env.valuesOf c.overridden).map shownAs ++ c.argv.map quoted)) := by
  have hAssignments : c.overridden.filterMap c.assignment? =
      (c.env.valuesOf c.overridden).map shownAs := by
    rw [Environment.valuesOf, List.map_filterMap]
    refine List.filterMap_congr fun name _ => ?_
    rw [assignment?, Option.map_map]
    rfl
  rw [render, renderedWords, hAssignments]

/-- Where every name has a value, none is left out. -/
theorem map_fst_valuesOf {env : Environment} {names : List Bytes}
    (h : ∀ name ∈ names, (env.get? name).isSome = true) :
    (env.valuesOf names).map (·.1) = names := by
  rw [Environment.valuesOf, List.map_filterMap]
  conv_rhs => rw [← List.filterMap_some (l := names)]
  refine List.filterMap_congr fun name hName => ?_
  obtain ⟨value, hValue⟩ := Option.isSome_iff_exists.mp (h name hName)
  rw [hValue]
  rfl

theorem get?_of_mem_valuesOf {env : Environment} {names : List Bytes} {a : Bytes × Bytes}
    (h : a ∈ env.valuesOf names) : env.get? a.1 = some a.2 := by
  obtain ⟨name, -, hName⟩ := List.mem_filterMap.mp h
  obtain ⟨value, hValue, rfl⟩ := Option.map_eq_some_iff.mp hName
  exact hValue

variable {p q : ActionPolicy}

theorem isSome_get?_of_mem_overridden {tool : Tool} {request : Request} {inherited : Environment} :
    ∀ name ∈ (compose tool request p inherited).overridden,
      ((compose tool request p inherited).env.get? name).isSome = true := by
  intro name hName
  rw [get?_env_compose_of_mem hName]
  rfl

/-- Commands composed under policies with interleaved overrides have the same program, arguments and
environment; they are equal exactly if the variables are first mentioned in the same order. -/
theorem compose_interleaved (h : p.Interleaved q) (tool : Tool) (request : Request)
    (inherited : Environment) :
    Reordered p q (compose tool request p inherited) (compose tool request q inherited) := by
  have hEnv : inherited.merge p.env = inherited.merge q.env :=
    Environment.merge_congr h.overrides inherited
  have hArgv : (compose tool request p inherited).argv =
      (compose tool request q inherited).argv := by
    simp only [argv, args, compose, h.args]
  have hNames : (compose tool request p inherited).overridden.Perm
      (compose tool request q inherited).overridden := by
    refine (List.perm_ext_iff_of_nodup (nodup_eraseDups _) (nodup_eraseDups _)).mpr ?_
    intro name
    rw [List.mem_eraseDups, List.mem_eraseDups, h.mem_keys]
  refine {
    program := rfl
    argv := hArgv
    env := hEnv
    shown := ⟨_, _, ?_, map_fst_valuesOf isSome_get?_of_mem_overridden,
      map_fst_valuesOf isSome_get?_of_mem_overridden, fun a => get?_of_mem_valuesOf,
      render_eq_valuesOf _, ?_⟩
    equal := ?_ }
  · have hSame : (compose tool request q inherited).env = (compose tool request p inherited).env :=
      hEnv.symm
    rw [hSame]
    exact hNames.filterMap _
  · rw [hArgv]
    exact render_eq_valuesOf _
  · have hOverridden : compose tool request p inherited = compose tool request q inherited ↔
        (p.env.map EnvOverride.key).eraseDups =
          (q.env.map EnvOverride.key).eraseDups := by
      simp [compose, hEnv, h.args]
    rw [hOverridden, eraseDups_eq_iff h.mem_keys]
    rfl

/-- Two extensions of `B` around a replacement of `A`, and both behind it: the variables are shown
the other way round, so the commands differ. -/
theorem reordered_aroundReplacement :
    let p : ActionPolicy := ActionPolicy.empty.append "B" "1" |>.set "A" "2" |>.append "B" "3"
    let q : ActionPolicy := ActionPolicy.empty.set "A" "2" |>.append "B" "1" |>.append "B" "3"
    let c := compose .default ⟨"t", []⟩ p .empty
    let d := compose .default ⟨"t", []⟩ q .empty
    p.Interleaved q ∧ Reordered p q c d ∧
      c.render = "B='1 3' A=2 cargo t" ∧ d.render = "A=2 B='1 3' cargo t" ∧ c ≠ d := by
  intro p q c d
  have hInterleaved : p.Interleaved q := by
    refine ⟨rfl, fun name => ?_⟩
    by_cases hB : Bytes.ofText "B" = name
    · subst hB
      decide
    · by_cases hA : Bytes.ofText "A" = name
      · subst hA
        decide
      · simp [p, q, overridesOf, ActionPolicy.append, ActionPolicy.set, ActionPolicy.withOverride,
          ActionPolicy.empty, EnvOverride.key, hA, hB]
  exact ⟨hInterleaved, compose_interleaved hInterleaved .default ⟨"t", []⟩ .empty,
    by decide +kernel, by decide +kernel, by decide +kernel⟩

end Command

end BuildDispatch
