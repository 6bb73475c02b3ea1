import BuildDispatch.Command.Rendering
import BuildDispatch.Proofs.Environment.Merge
import BuildDispatch.Proofs.SortedMap.Insertions

/-! What the overridden variables of a command tell about its environment.  They are the only ones
that may differ from the inherited environment, so a rendering, which shows each of them once with
its value, leaves nothing out: whoever sets them as shown gets the environment of the command. -/

namespace BuildDispatch

section FirstOccurrences

variable {α : Type} [BEq α] [LawfulBEq α]

/-- Of two elements, the one with the earlier first occurrence stands first. -/
theorem pairwise_idxOf_eraseDups (l : List α) :
    l.eraseDups.Pairwise fun a b => l.idxOf a < l.idxOf b := by
  induction l using List.reverseRecOn with
  | nil => exact .nil
  | append_singleton l c ih =>
    have hBefore : ∀ a ∈ l, (l ++ [c]).idxOf a = l.idxOf a := fun _ => List.idxOf_append_of_mem
    have hKept : l.eraseDups.Pairwise fun a b => (l ++ [c]).idxOf a < (l ++ [c]).idxOf b := by
      refine ih.imp_of_mem fun ha hb hLess => ?_
      rwa [hBefore _ (List.mem_eraseDups.mp ha), hBefore _ (List.mem_eraseDups.mp hb)]
    rw [List.eraseDups_append]
    -- a new element comes last, behind all the others
    by_cases hc : c ∈ l
    · have hNothing : [c].removeAll l = [] := by simp [List.removeAll, hc]
      rw [hNothing, List.eraseDups_nil, List.append_nil]
      exact hKept
    · have hLast : [c].removeAll l = [c] := by simp [List.removeAll, hc]
      rw [hLast, List.pairwise_append]
      refine ⟨hKept, List.pairwise_singleton _ _, fun a ha b hb => ?_⟩
      have ha := List.mem_eraseDups.mp ha
      have hb : b = c := by simpa using hb
      rw [hBefore a ha, hb, List.idxOf_append_of_notMem hc]
      exact Nat.lt_add_right _ (List.idxOf_lt_length_of_mem ha)

/-- No element is repeated. -/
theorem nodup_eraseDups (l : List α) : l.eraseDups.Nodup :=
  (pairwise_idxOf_eraseDups l).imp fun hLess hEq => by
    subst hEq
    exact Nat.lt_irrefl _ hLess

end FirstOccurrences

namespace Environment

/-- The variables with these names that an environment has, with their values. -/
def valuesOf (env : Environment) (names : List Bytes) : List (Bytes × Bytes) :=
  names.filterMap fun name => (env.get? name).map fun value => (name, value)

theorem lastUnder_valuesOf (env : Environment) (names : List Bytes) (name : Bytes) :
    SortedMap.lastUnder name (env.valuesOf names) =
      if name ∈ names then env.get? name else none := by
  induction names using List.reverseRecOn with
  | nil => rfl
  | append_singleton names last ih =>
    have hSplit : env.valuesOf (names ++ [last]) =
        env.valuesOf names ++ ((env.get? last).map fun value => (last, value)).toList := by
      rw [valuesOf, List.filterMap_append]
      cases h : env.get? last <;> simp [valuesOf, h]
    rw [hSplit]
    cases hLast : env.get? last with
    | none =>
      rw [Option.map_none, Option.toList_none, List.append_nil, ih]
      by_cases hName : name = last
      · subst hName
        simp [hLast]
      · simp [hName]
    | some value =>
      rw [Option.map_some, Option.toList_some, SortedMap.lastUnder_concat, ih]
      by_cases hName : last = name
      · subst hName
        simp [hLast]
      · simp [hName, Ne.symm hName]

/-- An environment with all of these variables set as in another one. -/
theorem get?_insertAll_valuesOf (env child : Environment) (names : List Bytes) (name : Bytes) :
    (env.insertAll (child.valuesOf names)).get? name =
      if name ∈ names then (child.get? name).or (env.get? name) else env.get? name := by
  rw [SortedMap.get?_insertAll, lastUnder_valuesOf]
  split <;> rfl

end Environment

namespace Command

open Environment (mergedValue overridesOf)

/-- The overridden variables of the command `c` account for the difference between its environment
and the inherited one. -/
structure Accounts (policy : ActionPolicy) (inherited : Environment) (c : Command) : Prop where
  once : c.overridden.Nodup
  names : ∀ name, name ∈ c.overridden ↔ ∃ o ∈ policy.env, o.key = name
  /-- The names stand in the order of their first overrides. -/
  order : c.overridden.Pairwise fun a b =>
    (policy.env.map EnvOverride.key).idxOf a < (policy.env.map EnvOverride.key).idxOf b
  /-- Each has the value that all overrides together leave. -/
  values : ∀ name ∈ c.overridden, c.env.get? name =
    some (mergedValue (inherited.get? name) (overridesOf name policy.env))
  /-- The rendering shows an assignment for each of them and for no other variable. -/
  shown : ∃ values, c.overridden.map c.env.get? = values.map some ∧
    c.render = .ofList ([' '].intercalate
      ((c.overridden.zip values).map (fun a => a.1.lossyText.toList ++ '=' :: quoted a.2)
        ++ c.argv.map quoted))
  changed : ∀ name, c.env.get? name ≠ inherited.get? name → name ∈ c.overridden
  rebuilt : inherited.insertAll (c.env.valuesOf c.overridden) = c.env

variable {tool : Tool} {request : Request} {policy : ActionPolicy} {inherited : Environment}

theorem mem_overridden_compose {name : Bytes} :
    name ∈ (compose tool request policy inherited).overridden ↔
      ∃ o ∈ policy.env, o.key = name := by
  rw [compose, List.mem_eraseDups, List.mem_map]

theorem overridesOf_ne_nil {name : Bytes}
    (h : name ∈ (compose tool request policy inherited).overridden) :
    overridesOf name policy.env ≠ [] := by
  obtain ⟨o, ho, hKey⟩ := mem_overridden_compose.mp h
  exact fun hNone => Environment.overridesOf_eq_nil.mp hNone o ho hKey

theorem get?_env_compose_of_mem {name : Bytes}
    (h : name ∈ (compose tool request policy inherited).overridden) :
    (compose tool request policy inherited).env.get? name =
      some (mergedValue (inherited.get? name) (overridesOf name policy.env)) :=
  (Environment.get?_merge inherited policy.env name).trans (if_neg (overridesOf_ne_nil h))

theorem get?_env_compose_of_notMem {name : Bytes}
    (h : name ∉ (compose tool request policy inherited).overridden) :
    (compose tool request policy inherited).env.get? name = inherited.get? name := by
  have hNone : overridesOf name policy.env = [] := by
    rw [Environment.overridesOf_eq_nil]
    exact fun o ho hKey => h (mem_overridden_compose.mpr ⟨o, ho, hKey⟩)
  exact (Environment.get?_merge inherited policy.env name).trans (if_pos hNone)

/-- Where every overridden variable has a value, none is left out of a rendering. -/
theorem filterMap_assignment? {c : Command} {names values : List Bytes}
    (h : names.map c.env.get? = values.map some) :
    names.filterMap c.assignment? =
      (names.zip values).map fun a => a.1.lossyText.toList ++ '=' :: quoted a.2 := by
  induction names generalizing values with
  | nil => rfl
  | cons name names ih =>
    cases values with
    | nil => simp at h
    | cons value values =>
      rw [List.map_cons, List.map_cons, List.cons.injEq] at h
      have hShown : c.assignment? name =
          some (name.lossyText.toList ++ '=' :: quoted value) := by
        rw [assignment?, h.1, Option.map_some]
      rw [List.filterMap_cons_some hShown, ih h.2, List.zip_cons_cons, List.map_cons]

/-- The variables that a composed command lists are those that its policy overrides, and they
account for all that the policy does to the environment. -/
theorem compose_accounts (tool : Tool) (request : Request) (policy : ActionPolicy)
    (inherited : Environment) :
    Accounts policy inherited (compose tool request policy inherited) where
  once := nodup_eraseDups _
  names := fun _ => mem_overridden_compose
  order := pairwise_idxOf_eraseDups _
  values := fun _ => get?_env_compose_of_mem
  shown := by
    have hValues : (compose tool request policy inherited).overridden.map
          (compose tool request policy inherited).env.get? =
        (compose tool request policy inherited).overridden.map
          (some ∘ fun name => mergedValue (inherited.get? name) (overridesOf name policy.env)) :=
      List.map_congr_left fun _ => get?_env_compose_of_mem
    rw [← List.map_map] at hValues
    exact ⟨_, hValues, by rw [render, renderedWords, filterMap_assignment? hValues]⟩
  changed := fun name hChanged => by
    by_contra hNot
    exact hChanged (get?_env_compose_of_notMem hNot)
  rebuilt := by
    apply SortedMap.ext
    intro name
    rw [Environment.get?_insertAll_valuesOf]
    by_cases h : name ∈ (compose tool request policy inherited).overridden
    · rw [if_pos h, get?_env_compose_of_mem h]
      rfl
    · rw [if_neg h, get?_env_compose_of_notMem h]

/-- A variable that is overridden twice is shown once, where it is overridden first. -/
example :
    (compose .default ⟨"t", []⟩ (ActionPolicy.empty.append "B" "1" |>.set "A" "2" |>.append "B" "3")
      .empty).render = "B='1 3' A=2 cargo t" := by
  decide +kernel

end Command

end BuildDispatch
