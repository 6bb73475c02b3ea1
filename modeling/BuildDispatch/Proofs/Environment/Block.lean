import BuildDispatch.Proofs.Bytes.Ascii
import BuildDispatch.Proofs.Environment.Merge
import BuildDispatch.Proofs.SortedMap.Insertions

/-! Environments that can be handed to a process.  Where names can be told apart from values and
nothing holds a NUL byte, the strings of a block set every variable once and are read back as the
same environment.  Overrides that keep to the same rules leave such an environment behind. -/

namespace BuildDispatch

/-- A name that a variable can have: not empty, without an equals sign and without a NUL byte. -/
structure IsVariableName (name : Bytes) : Prop where
  ne_nil : name ≠ []
  equals_notMem : 0x3D ∉ name
  nul_notMem : 0 ∉ name

instance (name : Bytes) : Decidable (IsVariableName name) :=
  decidable_of_iff (name ≠ [] ∧ 0x3D ∉ name ∧ 0 ∉ name)
    ⟨fun ⟨h, h', h''⟩ => ⟨h, h', h''⟩, fun ⟨h, h', h''⟩ => ⟨h, h', h''⟩⟩

/-- An override of a variable that can be, with a value that can be. -/
structure EnvOverride.IsSettable (o : EnvOverride) : Prop where
  name : IsVariableName o.key
  value : 0 ∉ o.fragment

namespace Environment

/-- Every name can be that of a variable, and no value holds a NUL byte. -/
structure WellFormed (env : Environment) : Prop where
  names : ∀ name ∈ env.keys, IsVariableName name
  values : ∀ name v, env.get? name = some v → 0 ∉ v

theorem wellFormed_iff {env : Environment} :
    env.WellFormed ↔ ∀ e ∈ env.entries, IsVariableName e.1 ∧ 0 ∉ e.2 := by
  constructor
  · exact fun h e he =>
      ⟨h.names e.1 (List.mem_map_of_mem he), h.values e.1 e.2 (SortedMap.mem_entries_iff.mp he)⟩
  · intro h
    refine ⟨fun name hName => ?_, fun name v hv => (h _ (SortedMap.mem_entries_iff.mpr hv)).2⟩
    obtain ⟨e, he, rfl⟩ := List.mem_map.mp hName
    exact (h e he).1

instance (env : Environment) : Decidable env.WellFormed := decidable_of_iff' _ wellFormed_iff

end Environment

/-! ### Reading a block back -/

namespace EnvironmentBlock

/-- A string is read back as the name and the value that it was made of. -/
theorem binding?_append {name : Bytes} (h : IsVariableName name) (value : Bytes) :
    binding? (name ++ 0x3D :: value) = some (name, value) := by
  cases name with
  | nil => exact absurd rfl h.ne_nil
  | cons b r =>
    have hInName : ∀ x ∈ r, (x != 0x3D) = true := by
      intro x hx
      rw [bne_iff_ne]
      rintro rfl
      exact h.equals_notMem (List.mem_cons_of_mem b hx)
    have hTake : (r ++ 0x3D :: value).takeWhile (· != 0x3D) = r := by
      rw [List.takeWhile_append_of_pos hInName]
      simp
    have hDrop : (r ++ 0x3D :: value).dropWhile (· != 0x3D) = 0x3D :: value := by
      rw [List.dropWhile_append_of_pos hInName]
      simp
    rw [List.cons_append, binding?]
    simp only [hTake, hDrop]

end EnvironmentBlock

namespace Environment

variable {env : Environment}

/-- Each string of a block sets one variable, in the order of the names. -/
theorem filterMap_binding?_block (h : env.WellFormed) :
    env.block.strings.filterMap EnvironmentBlock.binding? = env.entries := by
  have hEntry : ∀ e ∈ env.entries, EnvironmentBlock.binding? (e.1 ++ 0x3D :: e.2) = some e :=
    fun e he => EnvironmentBlock.binding?_append (wellFormed_iff.mp h e he).1 e.2
  rw [block, List.filterMap_map]
  change env.entries.filterMap (fun e => EnvironmentBlock.binding? (e.1 ++ 0x3D :: e.2)) = _
  rw [List.filterMap_congr hEntry, List.filterMap_some]

theorem environment_block (h : env.WellFormed) : env.block.environment = env := by
  rw [EnvironmentBlock.environment, filterMap_binding?_block h, SortedMap.ofList_entries]

end Environment

/-! ### Overrides -/

namespace EnvOverride

/-- An override puts no NUL byte into a value. -/
theorem nul_notMem_result {o : EnvOverride} (h : o.IsSettable) {before : Option Bytes}
    (hBefore : ∀ v ∈ before, (0 : UInt8) ∉ v) : 0 ∉ o.result before := by
  have hFragment : (0 : UInt8) ∉ Bytes.ofText o.value := h.value
  unfold result
  split
  · rename_i b r hMode
    have hSpace : (0 : UInt8) ∉ Bytes.ofText " " := by decide
    simp only [List.mem_append, not_or]
    exact ⟨⟨hBefore _ rfl, hSpace⟩, hFragment⟩
  · exact hFragment

end EnvOverride

namespace Environment

variable {env : Environment}

theorem WellFormed.merge (h : env.WellFormed) {os : List EnvOverride}
    (hSettable : ∀ o ∈ os, o.IsSettable) : (env.merge os).WellFormed where
  names := by
    intro name hName
    rcases (mem_keys_merge env os name).mp hName with hInherited | ⟨o, ho, rfl⟩
    · exact h.names name hInherited
    · exact (hSettable o ho).name
  values := forall_get?_merge h.values fun o ho _ hBefore =>
    EnvOverride.nul_notMem_result (hSettable o ho) hBefore

end Environment

end BuildDispatch
