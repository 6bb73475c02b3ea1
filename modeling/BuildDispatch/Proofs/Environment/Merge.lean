import BuildDispatch.Environment
import Mathlib.Data.List.DropRight

/-! The value of every variable after a list of overrides.  Only the overrides of a variable count
for it, and of them only the last that replaces its value and those behind it. -/

namespace BuildDispatch

namespace EnvOverride

/-- Whether an override replaces the value that is there. -/
def replaces (o : EnvOverride) : Bool := o.mode = .set

/-- The value that an override gives or adds, as an environment holds it. -/
def fragment (o : EnvOverride) : Bytes := .ofText o.value

theorem result_of_replaces {o : EnvOverride} (h : o.replaces = true) (before : Option Bytes) :
    o.result before = o.fragment := by
  have hMode : o.mode = .set := of_decide_eq_true h
  unfold result
  rw [hMode]
  rfl

theorem result_of_not_replaces {o : EnvOverride} (h : o.replaces = false)
    (before : Option Bytes) :
    o.result before =
      if before.getD [] = [] then o.fragment
      else before.getD [] ++ .ofText " " ++ o.fragment := by
  have hMode : o.mode = .append := by
    cases hm : o.mode with
    | append => rfl
    | set => simp [replaces, hm] at h
  unfold result
  rw [hMode]
  rcases before with _ | _ | ⟨b, r⟩
  · rfl
  · rfl
  · rfl

end EnvOverride

namespace Environment

/-- The overrides of one variable, in order. -/
def overridesOf (name : Bytes) (os : List EnvOverride) : List EnvOverride :=
  os.filter fun o => o.key = name

/-- Parts with single spaces between them, without the empty ones in front. -/
def joined (parts : List Bytes) : Bytes :=
  (Bytes.ofText " ").intercalate (parts.dropWhile List.isEmpty)

/-- What the overrides of a variable start from: the value of the last that replaces, or else what
was inherited. -/
def startValue (inherited : Option Bytes) (os : List EnvOverride) : Bytes :=
  (((os.filter EnvOverride.replaces).getLast?.map EnvOverride.fragment).or inherited).getD []

/-- What is appended behind the last override that replaces. -/
def fragments (os : List EnvOverride) : List Bytes :=
  (os.rtakeWhile fun o => !o.replaces).map EnvOverride.fragment

/-- The value that overrides of a variable leave. -/
def mergedValue (inherited : Option Bytes) (os : List EnvOverride) : Bytes :=
  joined (startValue inherited os :: fragments os)

/-! ### Joining -/

theorem intercalate_append_singleton {sep f : Bytes} {l : List Bytes} (h : l ≠ []) :
    sep.intercalate (l ++ [f]) = sep.intercalate l ++ sep ++ f := by
  induction l with
  | nil => exact absurd rfl h
  | cons p l ih =>
    cases l with
    | nil => simp [List.intercalate_cons_cons]
    | cons q l =>
      rw [List.cons_append, List.cons_append, List.intercalate_cons_cons, ← List.cons_append,
        ih (by simp), List.intercalate_cons_cons]
      simp only [List.append_assoc]

theorem intercalate_ne_nil {sep p : Bytes} (l : List Bytes) (h : p ≠ []) :
    sep.intercalate (p :: l) ≠ [] := by
  cases l with
  | nil => simpa using h
  | cons q l =>
    rw [List.intercalate_cons_cons]
    simp [h]

/-- What is joined is empty only where every part is. -/
theorem joined_eq_nil {parts : List Bytes} :
    joined parts = [] ↔ parts.dropWhile List.isEmpty = [] := by
  unfold joined
  cases h : parts.dropWhile List.isEmpty with
  | nil => simp
  | cons p l =>
    have hp : p ≠ [] := by
      have := List.head?_dropWhile_not List.isEmpty parts
      simpa [h] using this
    simp [intercalate_ne_nil l hp]

/-- A further part stands behind a space, and alone if nothing has been joined. -/
theorem joined_append (parts : List Bytes) (f : Bytes) :
    joined (parts ++ [f]) =
      if joined parts = [] then f else joined parts ++ .ofText " " ++ f := by
  simp only [joined_eq_nil]
  by_cases h : parts.dropWhile List.isEmpty = []
  · rw [joined, List.dropWhile_append, h, if_pos rfl]
    cases f <;> simp
  · rw [joined, List.dropWhile_append, if_neg (by simpa using h), if_neg h,
      intercalate_append_singleton h, joined]

theorem joined_singleton (p : Bytes) : joined [p] = p := by
  cases p <;> simp [joined]

/-! ### One variable -/

theorem mergedValue_nil (inherited : Option Bytes) :
    mergedValue inherited [] = inherited.getD [] :=
  joined_singleton _

/-- One more override of a variable acts on the value that those before it left. -/
theorem mergedValue_append (inherited : Option Bytes) (os : List EnvOverride) (o : EnvOverride)
    {before : Option Bytes} (h : before.getD [] = mergedValue inherited os) :
    mergedValue inherited (os ++ [o]) = o.result before := by
  cases hReplaces : o.replaces with
  | true =>
    rw [EnvOverride.result_of_replaces hReplaces]
    simp [mergedValue, startValue, fragments, hReplaces, joined_singleton]
  | false =>
    have hStart : startValue inherited (os ++ [o]) = startValue inherited os := by
      simp [startValue, hReplaces]
    have hFragments : fragments (os ++ [o]) = fragments os ++ [o.fragment] := by
      rw [fragments, List.rtakeWhile_concat_pos _ _ _ (by simp [hReplaces]), List.map_append]
      rfl
    rw [EnvOverride.result_of_not_replaces hReplaces, h, mergedValue, hStart, hFragments,
      ← List.cons_append, joined_append]
    rfl

/-- The value of every variable after overrides. -/
theorem get?_merge (env : Environment) (os : List EnvOverride) (name : Bytes) :
    (env.merge os).get? name =
      if overridesOf name os = [] then env.get? name
      else some (mergedValue (env.get? name) (overridesOf name os)) := by
  induction os using List.reverseRecOn with
  | nil => rfl
  | append_singleton os o ih =>
    rw [merge_append]
    change ((env.merge os).apply o).get? name = _
    rw [get?_apply]
    by_cases hName : o.key = name
    · have hOf : overridesOf name (os ++ [o]) = overridesOf name os ++ [o] := by
        simp [overridesOf, hName]
      have hBefore : ((env.merge os).get? name).getD [] =
          mergedValue (env.get? name) (overridesOf name os) := by
        rw [ih]
        split
        · rename_i hNone
          rw [hNone, mergedValue_nil]
        · rfl
      rw [if_pos hName, hName, hOf, if_neg (by simp), mergedValue_append _ _ o hBefore]
    · have hOf : overridesOf name (os ++ [o]) = overridesOf name os := by
        simp [overridesOf, hName]
      rw [if_neg hName, hOf, ih]

/-- What is true of every inherited value and kept by every override is true after a merge. -/
theorem forall_get?_merge {P : Bytes → Prop} {env : Environment} {os : List EnvOverride}
    (hInherited : ∀ name v, env.get? name = some v → P v)
    (hKept : ∀ o ∈ os, ∀ before : Option Bytes, (∀ v ∈ before, P v) → P (o.result before)) :
    ∀ name v, (env.merge os).get? name = some v → P v := by
  induction os using List.reverseRecOn with
  | nil => exact hInherited
  | append_singleton os o ih =>
    have hBefore := ih fun p hp => hKept p (by simp [hp])
    intro name v h
    rw [merge_append] at h
    change ((env.merge os).apply o).get? name = some v at h
    rw [get?_apply] at h
    split at h
    · cases h
      exact hKept o (by simp) _ fun v hv => hBefore _ v hv
    · exact hBefore name v h

theorem overridesOf_eq_nil {name : Bytes} {os : List EnvOverride} :
    overridesOf name os = [] ↔ ∀ o ∈ os, o.key ≠ name := by
  simp [overridesOf]

/-- The names after overrides are the inherited and the overridden ones. -/
theorem mem_keys_merge (env : Environment) (os : List EnvOverride) (name : Bytes) :
    name ∈ (env.merge os).keys ↔ name ∈ env.keys ∨ ∃ o ∈ os, o.key = name := by
  rw [SortedMap.mem_keys, SortedMap.mem_keys, get?_merge]
  by_cases h : overridesOf name os = []
  · have hNone := overridesOf_eq_nil.mp h
    rw [if_pos h]
    constructor
    · exact .inl
    · rintro (hInherited | ⟨o, ho, hName⟩)
      · exact hInherited
      · exact absurd hName (hNone o ho)
  · rw [if_neg h]
    rw [overridesOf_eq_nil] at h
    push Not at h
    exact ⟨fun _ => .inr h, fun _ => rfl⟩

/-- The closed form of a merge, for every variable: without an override it stays as inherited, and
otherwise it holds what its last replacement, or its inherited value, and the fragments behind that
join to.  No other name comes or goes. -/
theorem merge_closed_form (env : Environment) (os : List EnvOverride) (name : Bytes) :
    ((env.merge os).get? name =
      if ∀ o ∈ os, o.key ≠ name then env.get? name
      else some (joined (startValue (env.get? name) (overridesOf name os)
        :: fragments (overridesOf name os)))) ∧
    (name ∈ (env.merge os).keys ↔ name ∈ env.keys ∨ ∃ o ∈ os, o.key = name) := by
  refine ⟨?_, mem_keys_merge env os name⟩
  rw [get?_merge]
  by_cases h : overridesOf name os = []
  · rw [if_pos h, if_pos (overridesOf_eq_nil.mp h)]
  · rw [if_neg h, if_neg (mt overridesOf_eq_nil.mpr h), mergedValue]

/-- Empty parts are dropped in front only. -/
example : mergedValue (some []) [⟨"A", "", .append⟩, ⟨"A", "b", .append⟩, ⟨"A", "", .append⟩] =
    .ofText "b " := by
  decide

end Environment

end BuildDispatch
