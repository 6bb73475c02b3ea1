import BuildDispatch.Bytes

/-!
Finite maps as association lists in strictly increasing bytewise order of their keys.  `get?_insert`
says what insertion does to every key, and `ext` that two maps which answer every key alike are
equal, so the order in which a map was filled never shows.
-/

namespace BuildDispatch

open ByteKey

/-- Entries in strictly increasing order of their keys; so every key occurs at most once. -/
structure SortedMap (κ ν : Type) [ByteKey κ] where
  entries : List (κ × ν)
  sorted : entries.Pairwise fun a b => before a.1 b.1

namespace SortedMap

variable {κ ν : Type} [ByteKey κ]

instance [DecidableEq κ] [DecidableEq ν] : DecidableEq (SortedMap κ ν) := fun m n =>
  decidable_of_iff (m.entries = n.entries) <| by
    cases m
    cases n
    simp

/-- The map without entries. -/
def empty : SortedMap κ ν := ⟨[], .nil⟩

instance : Inhabited (SortedMap κ ν) := ⟨empty⟩

/-- The keys, in increasing order. -/
def keys (m : SortedMap κ ν) : List κ := m.entries.map (·.1)

/-- Whether a map has no entries. -/
def isEmpty (m : SortedMap κ ν) : Bool := m.entries.isEmpty

section Get

variable [DecidableEq κ]

/-- The value of the first entry with the key `k`. -/
def lookup (k : κ) : List (κ × ν) → Option ν
  | [] => none
  | (k', v) :: r => if k' = k then some v else lookup k r

/-- The value stored under `k`. -/
def get? (m : SortedMap κ ν) (k : κ) : Option ν := lookup k m.entries

end Get

/-- Puts `v` under `k` where it belongs in a sorted list, over any value that was there. -/
def insertEntry (k : κ) (v : ν) : List (κ × ν) → List (κ × ν)
  | [] => [(k, v)]
  | (k', v') :: r =>
    if before k k' then (k, v) :: (k', v') :: r
    else if before k' k then (k', v') :: insertEntry k v r
    else (k, v) :: r

theorem mem_insertEntry {k : κ} {v : ν} {l : List (κ × ν)} {e : κ × ν}
    (h : e ∈ insertEntry k v l) : e = (k, v) ∨ e ∈ l := by
  induction l with
  | nil => simpa [insertEntry] using h
  | cons a r ih =>
    obtain ⟨k', v'⟩ := a
    unfold insertEntry at h
    split at h
    · simpa using h
    · split at h
      · rcases List.mem_cons.mp h with h | h
        · exact .inr (by simp [h])
        · exact (ih h).imp id fun h => by simp [h]
      · rcases List.mem_cons.mp h with h | h
        · exact .inl h
        · exact .inr (by simp [h])

theorem sorted_insertEntry (k : κ) (v : ν) {l : List (κ × ν)}
    (h : l.Pairwise fun a b => before a.1 b.1) :
    (insertEntry k v l).Pairwise fun a b => before a.1 b.1 := by
  induction l with
  | nil => simp [insertEntry]
  | cons a r ih =>
    obtain ⟨k', v'⟩ := a
    obtain ⟨hd, tl⟩ := List.pairwise_cons.mp h
    unfold insertEntry
    split
    · rename_i hk
      refine List.pairwise_cons.mpr ⟨fun e he => ?_, h⟩
      rcases List.mem_cons.mp he with rfl | he
      · exact hk
      · exact before_trans hk (hd e he)
    · split
      · rename_i hk
        refine List.pairwise_cons.mpr ⟨fun e he => ?_, ih tl⟩
        rcases mem_insertEntry he with rfl | he
        · exact hk
        · exact hd e he
      · rename_i h₁ h₂
        have : k' = k := eq_of_not_before h₂ h₁
        subst this
        exact List.pairwise_cons.mpr ⟨hd, tl⟩

/-- The map with `v` under `k` and everything else as before. -/
def insert (m : SortedMap κ ν) (k : κ) (v : ν) : SortedMap κ ν :=
  ⟨insertEntry k v m.entries, sorted_insertEntry k v m.sorted⟩

/-- The map filled from a list of pairs; a later pair replaces an earlier one of the same key. -/
def ofList (l : List (κ × ν)) : SortedMap κ ν :=
  l.foldl (fun m e => m.insert e.1 e.2) empty

/-- The first map with all entries of the second put into it. -/
def override (m n : SortedMap κ ν) : SortedMap κ ν :=
  n.entries.foldl (fun m e => m.insert e.1 e.2) m

/-! ### What insertion does to every key -/

variable [DecidableEq κ]

omit [ByteKey κ] in
theorem lookup_eq_none {k : κ} {l : List (κ × ν)} (h : ∀ e ∈ l, e.1 ≠ k) : lookup k l = none := by
  induction l with
  | nil => rfl
  | cons a r ih =>
    simp only [lookup, if_neg (h a (by simp))]
    exact ih fun e he => h e (by simp [he])

theorem lookup_insertEntry (k : κ) (v : ν) (j : κ) (l : List (κ × ν))
    (h : l.Pairwise fun a b => before a.1 b.1) :
    lookup j (insertEntry k v l) = if k = j then some v else lookup j l := by
  induction l with
  | nil => rfl
  | cons a r ih =>
    obtain ⟨k', v'⟩ := a
    obtain ⟨hd, tl⟩ := List.pairwise_cons.mp h
    unfold insertEntry
    split
    · rfl
    · split
      · rename_i hk
        have hne := ne_of_before hk
        by_cases e : k' = j
        · subst e
          simp [lookup, Ne.symm hne]
        · simp [lookup, e, ih tl]
      · rename_i h₁ h₂
        have e : k' = k := eq_of_not_before h₂ h₁
        subst e
        by_cases e : k' = j <;> simp [lookup, e]

@[simp] theorem get?_empty (k : κ) : (empty : SortedMap κ ν).get? k = none := rfl

theorem get?_insert (m : SortedMap κ ν) (k : κ) (v : ν) (j : κ) :
    (m.insert k v).get? j = if k = j then some v else m.get? j :=
  lookup_insertEntry k v j m.entries m.sorted

/-! ### Keys -/

omit [ByteKey κ] in
theorem isSome_lookup {k : κ} {l : List (κ × ν)} :
    (lookup k l).isSome = true ↔ k ∈ l.map (·.1) := by
  induction l with
  | nil => simp [lookup]
  | cons a r ih =>
    obtain ⟨k', v'⟩ := a
    by_cases e : k' = k
    · simp [lookup, e]
    · simp [lookup, e, ih, Ne.symm e]

/-- Exactly the keys have a value. -/
theorem mem_keys {m : SortedMap κ ν} {k : κ} : k ∈ m.keys ↔ (m.get? k).isSome = true :=
  isSome_lookup.symm

/-! ### Equality -/

omit [ByteKey κ] in
theorem mem_of_lookup {k : κ} {v : ν} {l : List (κ × ν)} (h : lookup k l = some v) :
    (k, v) ∈ l := by
  induction l with
  | nil => simp [lookup] at h
  | cons a r ih =>
    obtain ⟨k', v'⟩ := a
    unfold lookup at h
    split at h
    · rename_i e
      subst e
      simp_all
    · simp [ih h]

theorem entries_eq_of_lookup {l r : List (κ × ν)} (hl : l.Pairwise fun a b => before a.1 b.1)
    (hr : r.Pairwise fun a b => before a.1 b.1) (h : ∀ k, lookup k l = lookup k r) : l = r := by
  induction l generalizing r with
  | nil =>
    cases r with
    | nil => rfl
    | cons b r => simpa [lookup] using h b.1
  | cons a l ih =>
    cases r with
    | nil => simpa [lookup] using h a.1
    | cons b r =>
      obtain ⟨k, v⟩ := a
      obtain ⟨k', v'⟩ := b
      obtain ⟨hdl, tll⟩ := List.pairwise_cons.mp hl
      obtain ⟨hdr, tlr⟩ := List.pairwise_cons.mp hr
      have key : k = k' := by
        apply eq_of_not_before
        · intro hk
          have top : lookup k ((k, v) :: l) = some v := by simp [lookup]
          have m := mem_of_lookup ((h k).symm.trans top)
          rcases List.mem_cons.mp m with e | m
          · exact ne_of_before hk (Prod.mk.inj e).1
          · exact before_irrefl _ (before_trans hk (hdr _ m))
        · intro hk
          have top : lookup k' ((k', v') :: r) = some v' := by simp [lookup]
          have m := mem_of_lookup ((h k').trans top)
          rcases List.mem_cons.mp m with e | m
          · exact ne_of_before hk (Prod.mk.inj e).1
          · exact before_irrefl _ (before_trans hk (hdl _ m))
      subst key
      have val : v = v' := by simpa [lookup] using h k
      subst val
      rw [ih tll tlr]
      intro j
      by_cases e : k = j
      · subst e
        rw [lookup_eq_none fun e he => (ne_of_before (hdl e he)).symm,
          lookup_eq_none fun e he => (ne_of_before (hdr e he)).symm]
      · simpa [lookup, e] using h j

/-- Maps that answer every key alike are equal. -/
theorem ext {m n : SortedMap κ ν} (h : ∀ k, m.get? k = n.get? k) : m = n := by
  cases m
  cases n
  simp only [mk.injEq]
  exact entries_eq_of_lookup ‹_› ‹_› h

end SortedMap

end BuildDispatch
