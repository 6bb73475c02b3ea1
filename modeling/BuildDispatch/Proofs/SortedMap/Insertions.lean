import BuildDispatch.SortedMap
import Mathlib.Data.List.Induction
import Mathlib.Data.List.Sort

/-! Maps after any number of insertions.  Of the insertions under one key only the last counts, and
the keys are those of the map and of the insertions; filling a map from a list and putting one map
over another are such runs of insertions. -/

namespace BuildDispatch

namespace ByteKey

variable {κ : Type} [ByteKey κ]

instance : Std.Irrefl (before (κ := κ)) := ⟨before_irrefl⟩

instance : Std.Antisymm (before (κ := κ)) :=
  ⟨fun a _ h k => absurd (before_trans h k) (before_irrefl a)⟩

end ByteKey

namespace SortedMap

open ByteKey

variable {κ ν : Type}

/-- The value of the last pair with the key `k`. -/
def lastUnder [DecidableEq κ] (k : κ) (l : List (κ × ν)) : Option ν :=
  (l.filter fun e => e.1 = k).getLast?.map (·.2)

section Last

variable [DecidableEq κ] (k : κ) (l : List (κ × ν)) (e : κ × ν)

theorem lastUnder_concat :
    lastUnder k (l ++ [e]) = if e.1 = k then some e.2 else lastUnder k l := by
  by_cases h : e.1 = k <;> simp [lastUnder, h]

theorem isSome_lastUnder : (lastUnder k l).isSome = true ↔ k ∈ l.map (·.1) := by
  simp [lastUnder]

/-- Where no key occurs twice, the last pair with a key is the first. -/
theorem lastUnder_eq_lookup (h : (l.map (·.1)).Nodup) : lastUnder k l = lookup k l := by
  induction l with
  | nil => rfl
  | cons a l ih =>
    rw [List.map_cons, List.nodup_cons] at h
    by_cases hKey : a.1 = k
    · have hNone : l.filter (fun e => e.1 = k) = [] := by
        rw [List.filter_eq_nil_iff]
        intro e he hk
        exact h.1 (List.mem_map.mpr ⟨e, he, (of_decide_eq_true hk).trans hKey.symm⟩)
      simp [lastUnder, lookup, hKey, hNone]
    · rw [lookup, if_neg hKey, ← ih h.2]
      simp [lastUnder, hKey]

end Last

variable [ByteKey κ]

/-- The map after insertions, taken in order. -/
def insertAll (m : SortedMap κ ν) (l : List (κ × ν)) : SortedMap κ ν :=
  l.foldl (fun m e => m.insert e.1 e.2) m

theorem ofList_eq_insertAll (l : List (κ × ν)) : ofList l = empty.insertAll l := rfl

theorem override_eq_insertAll (m n : SortedMap κ ν) : m.override n = m.insertAll n.entries := rfl

theorem insertAll_concat (m : SortedMap κ ν) (l : List (κ × ν)) (e : κ × ν) :
    m.insertAll (l ++ [e]) = (m.insertAll l).insert e.1 e.2 := by
  rw [insertAll, List.foldl_append]
  rfl

theorem keys_pairwise (m : SortedMap κ ν) : m.keys.Pairwise before :=
  List.pairwise_map.mpr m.sorted

theorem eq_empty_of_isEmpty {m : SortedMap κ ν} (h : m.isEmpty = true) : m = empty := by
  cases m
  simpa [isEmpty, empty] using h

theorem keys_nodup (m : SortedMap κ ν) : m.keys.Nodup :=
  m.keys_pairwise.imp ne_of_before

/-- A list of keys is that of a map exactly if it is increasing and holds the keys of the map. -/
theorem keys_eq_iff (m : SortedMap κ ν) (l : List κ) :
    m.keys = l ↔ l.Pairwise before ∧ ∀ k, k ∈ l ↔ k ∈ m.keys := by
  constructor
  · rintro rfl
    exact ⟨m.keys_pairwise, fun _ => Iff.rfl⟩
  · rintro ⟨hSorted, hMem⟩
    exact m.keys_pairwise.eq_of_mem_iff hSorted fun k => (hMem k).symm

variable [DecidableEq κ]

/-- The entries of a map are the pairs that it answers with. -/
theorem mem_entries_iff {m : SortedMap κ ν} {k : κ} {v : ν} :
    (k, v) ∈ m.entries ↔ m.get? k = some v := by
  refine ⟨fun h => ?_, mem_of_lookup⟩
  have hSorted := m.sorted
  unfold get?
  generalize m.entries = l at h hSorted
  induction l with
  | nil => cases h
  | cons a l ih =>
    obtain ⟨hFirst, hRest⟩ := List.pairwise_cons.mp hSorted
    rcases List.mem_cons.mp h with rfl | h
    · simp [lookup]
    · rw [lookup, if_neg (ne_of_before (hFirst _ h)), ih h hRest]

/-- The last insertion under a key counts, and without one the key is left as it was. -/
theorem get?_insertAll (m : SortedMap κ ν) (l : List (κ × ν)) (k : κ) :
    (m.insertAll l).get? k = (lastUnder k l).or (m.get? k) := by
  induction l using List.reverseRecOn with
  | nil => rfl
  | append_singleton l e ih =>
    rw [insertAll_concat, get?_insert, ih, lastUnder_concat]
    split <;> rfl

/-- Whatever was inserted, the keys are the old ones and those of the insertions. -/
theorem mem_keys_insertAll (m : SortedMap κ ν) (l : List (κ × ν)) (k : κ) :
    k ∈ (m.insertAll l).keys ↔ k ∈ m.keys ∨ k ∈ l.map (·.1) := by
  rw [mem_keys, get?_insertAll, Option.isSome_or, Bool.or_eq_true, isSome_lastUnder, ← mem_keys,
    or_comm]

/-- A map that is filled from pairs without repeated keys answers with the pairs. -/
theorem get?_ofList {l : List (κ × ν)} (h : (l.map (·.1)).Nodup) (k : κ) :
    (ofList l).get? k = lookup k l := by
  rw [ofList_eq_insertAll, get?_insertAll, lastUnder_eq_lookup k l h, get?_empty, Option.or_none]

/-- A map is filled from its own entries. -/
theorem ofList_entries (m : SortedMap κ ν) : ofList m.entries = m := by
  apply ext
  intro k
  exact get?_ofList m.keys_nodup k

/-- Of two maps, the one on top answers first. -/
theorem get?_override (m n : SortedMap κ ν) (k : κ) :
    (m.override n).get? k = (n.get? k).or (m.get? k) := by
  rw [override_eq_insertAll, get?_insertAll, lastUnder_eq_lookup k n.entries n.keys_nodup]
  rfl

theorem mem_keys_override (m n : SortedMap κ ν) (k : κ) :
    k ∈ (m.override n).keys ↔ k ∈ m.keys ∨ k ∈ n.keys := by
  rw [override_eq_insertAll, mem_keys_insertAll]
  rfl

/-- Maps with the same keys are equal if they answer alike, also where an absent key is answered by
a value of its own. -/
theorem eq_iff_keys_getD (m n : SortedMap κ ν) (absent : ν) :
    m = n ↔ m.keys = n.keys ∧ ∀ k, (m.get? k).getD absent = (n.get? k).getD absent := by
  constructor
  · rintro rfl
    exact ⟨rfl, fun _ => rfl⟩
  · rintro ⟨hKeys, hValues⟩
    apply ext
    intro k
    have hValue := hValues k
    have hPresent : (m.get? k).isSome = true ↔ (n.get? k).isSome = true := by
      rw [← mem_keys, ← mem_keys, hKeys]
    cases hm : m.get? k <;> cases hn : n.get? k <;> simp_all

end SortedMap

end BuildDispatch
