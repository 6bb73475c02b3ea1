import BuildDispatch.Proofs.Environment.Merge

/-! Overrides that are applied twice, as by a process that starts another one under the same policy.
A variable whose value is replaced somewhere has the same value again.  One that is only extended
gets every fragment a second time, so it keeps its value only if that value and all fragments are
empty. -/

namespace BuildDispatch

namespace Environment

/-! ### One variable -/

section Variable

variable {os : List EnvOverride}

/-- Behind a replacement nothing is left of what was there before. -/
theorem mergedValue_of_replaces (h : ∃ o ∈ os, o.replaces = true) (before before' : Option Bytes) :
    mergedValue before os = mergedValue before' os := by
  have hStart : startValue before os = startValue before' os := by
    obtain ⟨o, ho, hReplaces⟩ := h
    have hMem : o ∈ os.filter EnvOverride.replaces := List.mem_filter.mpr ⟨ho, hReplaces⟩
    cases hLast : (os.filter EnvOverride.replaces).getLast? with
    | none => exact absurd (List.getLast?_eq_none_iff.mp hLast) (List.ne_nil_of_mem hMem)
    | some last =>
      rw [startValue, startValue, hLast, Option.map_some, Option.some_or, Option.some_or]
  rw [mergedValue, mergedValue, hStart]

theorem mergedValue_of_not_replaces (h : ∀ o ∈ os, o.replaces = false) (before : Option Bytes) :
    mergedValue before os = joined (before.getD [] :: os.map EnvOverride.fragment) := by
  have hNone : os.filter EnvOverride.replaces = [] := by
    rw [List.filter_eq_nil_iff]
    intro o ho
    simp [h o ho]
  have hAll : (os.rtakeWhile fun o => !o.replaces) = os := by
    rw [List.rtakeWhile_eq_self_iff]
    intro o ho
    simp [h o ho]
  rw [mergedValue, startValue, fragments, hNone, hAll]
  rfl

theorem joined_eq_nil_iff {parts : List Bytes} : joined parts = [] ↔ ∀ p ∈ parts, p = [] := by
  rw [joined_eq_nil, List.dropWhile_eq_nil_iff]
  simp only [List.isEmpty_iff]

/-- What overrides append to a value that is there. -/
def appended (os : List EnvOverride) : Bytes :=
  os.flatMap fun o => Bytes.ofText " " ++ o.fragment

theorem appended_ne_nil (h : os ≠ []) : appended os ≠ [] := by
  obtain ⟨o, os, rfl⟩ := List.exists_cons_of_ne_nil h
  have hSpace : Bytes.ofText " " ≠ [] := by decide
  simp [appended, hSpace]

theorem joined_cons_fragments {p : Bytes} (h : p ≠ []) (os : List EnvOverride) :
    joined (p :: os.map EnvOverride.fragment) = p ++ appended os := by
  induction os using List.reverseRecOn with
  | nil =>
    rw [List.map_nil, joined_singleton]
    exact (List.append_nil p).symm
  | append_singleton os o ih =>
    have hNe : joined (p :: os.map EnvOverride.fragment) ≠ [] := by
      rw [ih]
      simp [h]
    rw [List.map_append, List.map_singleton, ← List.cons_append, joined_append, if_neg hNe, ih]
    simp [appended]

end Variable

/-! ### Whole environments -/

/-- Overrides leave a variable as it is when they are applied once more: one of them replaces its
value, or there is nothing to append and nothing to append to. -/
def IsSettled (env : Environment) (os : List EnvOverride) (name : Bytes) : Prop :=
  (∃ o ∈ os, o.key = name ∧ o.mode = .set) ∨
    (∀ v, env.get? name = some v → v = []) ∧ ∀ o ∈ os, o.key = name → o.value = ""

/-- The value of a variable in the first environment is a proper prefix of that in the second. -/
def Grows (once twice : Environment) (name : Bytes) : Prop :=
  ∃ before after, once.get? name = some before ∧ twice.get? name = some after ∧
    before <+: after ∧ before.length < after.length

section Again

variable {env : Environment} {os : List EnvOverride} {name : Bytes}

theorem exists_replaces_overridesOf :
    (∃ o ∈ overridesOf name os, o.replaces = true) ↔ ∃ o ∈ os, o.key = name ∧ o.mode = .set := by
  simp [overridesOf, EnvOverride.replaces, and_assoc]

theorem get?_merge_of_named (h : ∃ o ∈ os, o.key = name) (env : Environment) :
    (env.merge os).get? name = some (mergedValue (env.get? name) (overridesOf name os)) := by
  rw [get?_merge, if_neg]
  intro hNone
  obtain ⟨o, ho, hKey⟩ := h
  exact overridesOf_eq_nil.mp hNone o ho hKey

/-- The value of a variable that is not settled gets everything appended a second time. -/
theorem grows_of_not_isSettled (hNamed : ∃ o ∈ os, o.key = name) (h : ¬ IsSettled env os name) :
    Grows (env.merge os) ((env.merge os).merge os) name := by
  rw [IsSettled, not_or, ← exists_replaces_overridesOf] at h
  obtain ⟨hNoSet, hNotEmpty⟩ := h
  have hAppends : ∀ o ∈ overridesOf name os, o.replaces = false := by
    intro o ho
    by_contra hReplaces
    exact hNoSet ⟨o, ho, by simpa using hReplaces⟩
  have hNe : mergedValue (env.get? name) (overridesOf name os) ≠ [] := by
    rw [mergedValue_of_not_replaces hAppends, Ne, joined_eq_nil_iff]
    intro hAll
    refine hNotEmpty ⟨fun v hv => ?_, fun o ho hKey => ?_⟩
    · have hStart := hAll _ List.mem_cons_self
      rwa [hv, Option.getD_some] at hStart
    · have hMem : o ∈ overridesOf name os := List.mem_filter.mpr ⟨ho, decide_eq_true hKey⟩
      have hFragment : o.fragment = [] :=
        hAll _ (List.mem_cons_of_mem _ (List.mem_map_of_mem hMem))
      exact Bytes.ofText_inj hFragment
  have hSome : overridesOf name os ≠ [] := by
    obtain ⟨o, ho, hKey⟩ := hNamed
    exact fun hNone => overridesOf_eq_nil.mp hNone o ho hKey
  have hTwice : ((env.merge os).merge os).get? name =
      some (mergedValue (env.get? name) (overridesOf name os) ++
        appended (overridesOf name os)) := by
    rw [get?_merge_of_named hNamed, get?_merge_of_named hNamed,
      mergedValue_of_not_replaces hAppends (some _), Option.getD_some, joined_cons_fragments hNe]
  refine ⟨_, _, get?_merge_of_named hNamed env, hTwice, List.prefix_append _ _, ?_⟩
  have hLength := List.length_pos_iff.mpr (appended_ne_nil hSome)
  rw [List.length_append]
  omega

theorem get?_merge_merge_of_isSettled (hNamed : ∃ o ∈ os, o.key = name)
    (h : IsSettled env os name) :
    ((env.merge os).merge os).get? name = (env.merge os).get? name := by
  rw [get?_merge_of_named hNamed, get?_merge_of_named hNamed]
  by_cases hSet : ∃ o ∈ overridesOf name os, o.replaces = true
  · rw [mergedValue_of_replaces hSet]
  · obtain ⟨hInherited, hValues⟩ := h.resolve_left (mt exists_replaces_overridesOf.mpr hSet)
    have hAppends : ∀ o ∈ overridesOf name os, o.replaces = false := by
      intro o ho
      by_contra hReplaces
      exact hSet ⟨o, ho, by simpa using hReplaces⟩
    have hFragments : ∀ p ∈ (overridesOf name os).map EnvOverride.fragment, p = [] := by
      intro p hp
      obtain ⟨o, ho, rfl⟩ := List.mem_map.mp hp
      obtain ⟨hMem, hKey⟩ := List.mem_filter.mp ho
      rw [EnvOverride.fragment, hValues o hMem (of_decide_eq_true hKey), Bytes.ofText_empty]
    -- Both times nothing but empty parts is joined.
    have hEmpty : ∀ before : Option Bytes, before.getD [] = [] →
        mergedValue before (overridesOf name os) = [] := by
      intro before hBefore
      rw [mergedValue_of_not_replaces hAppends, joined_eq_nil_iff, hBefore]
      simpa using hFragments
    have hStart : (env.get? name).getD [] = [] := by
      cases hv : env.get? name with
      | none => rfl
      | some v => exact hInherited v hv
    rw [hEmpty _ hStart, hEmpty _ rfl]

theorem get?_merge_merge_of_not_named (h : ¬ ∃ o ∈ os, o.key = name) :
    ((env.merge os).merge os).get? name = (env.merge os).get? name := by
  have hNone : overridesOf name os = [] :=
    overridesOf_eq_nil.mpr fun o ho hKey => h ⟨o, ho, hKey⟩
  rw [get?_merge (env.merge os), if_pos hNone]

/-- A variable that changes has overrides, none of which replaces its value. -/
theorem not_isSettled_of_changed
    (h : ((env.merge os).merge os).get? name ≠ (env.merge os).get? name) :
    (∃ o ∈ os, o.key = name) ∧ ¬ IsSettled env os name := by
  have hNamed : ∃ o ∈ os, o.key = name := by
    by_contra hNot
    exact h (get?_merge_merge_of_not_named hNot)
  exact ⟨hNamed, fun hSettled => h (get?_merge_merge_of_isSettled hNamed hSettled)⟩

end Again

/-- What becomes of the environment `once` that overrides leave of `env` when they are applied to it
once more. -/
structure Repeats (env : Environment) (os : List EnvOverride) (once twice : Environment) :
    Prop where
  same : twice = once ↔ ∀ o ∈ os, IsSettled env os o.key
  grows : (¬ ∀ o ∈ os, IsSettled env os o.key) → ∃ name, Grows once twice name
  /-- Only variables that are extended and never replaced change, and they grow. -/
  changed : ∀ name, twice.get? name ≠ once.get? name →
    (∃ o ∈ os, o.key = name) ∧ (∀ o ∈ os, o.key = name → o.mode ≠ .set) ∧ Grows once twice name

/-- Applying overrides a second time is harmless exactly if every variable they name is settled; any
other variable grows. -/
theorem merge_merge (env : Environment) (os : List EnvOverride) :
    Repeats env os (env.merge os) ((env.merge os).merge os) := by
  have hGrows : (¬ ∀ o ∈ os, IsSettled env os o.key) →
      ∃ name, Grows (env.merge os) ((env.merge os).merge os) name := by
    intro h
    push Not at h
    obtain ⟨o, ho, hNot⟩ := h
    exact ⟨o.key, grows_of_not_isSettled ⟨o, ho, rfl⟩ hNot⟩
  refine ⟨⟨fun hSame => ?_, fun hSettled => ?_⟩, hGrows, fun name hChanged => ?_⟩
  · by_contra hNot
    obtain ⟨name, before, after, hOnce, hTwice, -, hLonger⟩ := hGrows hNot
    rw [hSame, hOnce] at hTwice
    cases hTwice
    exact Nat.lt_irrefl _ hLonger
  · apply SortedMap.ext
    intro name
    by_contra hChanged
    obtain ⟨⟨o, ho, rfl⟩, hNot⟩ := not_isSettled_of_changed hChanged
    exact hNot (hSettled o ho)
  · obtain ⟨hNamed, hNot⟩ := not_isSettled_of_changed hChanged
    refine ⟨hNamed, fun o ho hKey hSet => ?_, grows_of_not_isSettled hNamed hNot⟩
    exact hNot (.inl ⟨o, ho, hKey, hSet⟩)

/-- An empty fragment is harmless for an absent variable, and not for one that has a value. -/
example :
    let os : List EnvOverride := [⟨"A", "", .append⟩]
    let env : Environment := .ofList [(.ofText "A", .ofText "1")]
    (Environment.merge .empty os).merge os = Environment.merge .empty os ∧
      ((env.merge os).merge os).get? (.ofText "A") = some (.ofText "1  ") := by
  decide

end Environment

end BuildDispatch
