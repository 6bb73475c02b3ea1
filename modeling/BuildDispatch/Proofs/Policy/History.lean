import BuildDispatch.Policy
import BuildDispatch.Proofs.SortedMap.Insertions

/-! Tables of policies after any history of insertions, from any table on.  A table is a finite map:
what it resolves and lists depends on the last insertion under each name and on nothing else. -/

namespace BuildDispatch

namespace PolicyTable

open SortedMap (lastUnder)

/-- Insertions in their order: names of actions, each with a policy. -/
abbrev History := List (String × ActionPolicy)

/-- The table that a history leaves of a table. -/
def after (start : PolicyTable) (history : History) : PolicyTable := start.insertAll history

/-- A history goes on from where another one ended. -/
theorem after_append (start : PolicyTable) (first second : History) :
    after start (first ++ second) = after (after start first) second :=
  List.foldl_append

theorem resolve_eq_empty {t : PolicyTable} {action : String} (h : action ∉ t.actions) :
    t.resolve action = .empty := by
  have hNone : t.get? action = none := by
    rw [actions, SortedMap.mem_keys, Bool.not_eq_true] at h
    exact Option.isNone_iff_eq_none.mp (by simpa using h)
  rw [resolve, hNone]
  rfl

theorem resolve_after (start : PolicyTable) (history : History) (action : String) :
    resolve (after start history) action =
      (lastUnder action history).getD (start.resolve action) := by
  rw [resolve, after, SortedMap.get?_insertAll, resolve]
  cases lastUnder action history <;> rfl

theorem actions_after (start : PolicyTable) (history : History) (names : List String) :
    actions (after start history) = names ↔
      (names.Pairwise fun a b => Bytes.ofText a < Bytes.ofText b) ∧
        ∀ a, a ∈ names ↔ a ∈ start.actions ∨ a ∈ history.map (·.1) := by
  rw [actions, SortedMap.keys_eq_iff]
  simp only [after, SortedMap.mem_keys_insertAll]
  rfl

/-- Only the last insertion under each name counts for a table. -/
theorem after_congr {start : PolicyTable} {history history' : History}
    (h : ∀ a, lastUnder a history = lastUnder a history') :
    after start history = after start history' := by
  apply SortedMap.ext
  intro a
  rw [after, after, SortedMap.get?_insertAll, SortedMap.get?_insertAll, h a]

/-- Tables are equal exactly if they list the same actions and resolve every action alike. -/
theorem eq_iff (t u : PolicyTable) :
    t = u ↔ t.actions = u.actions ∧ ∀ a, t.resolve a = u.resolve a :=
  SortedMap.eq_iff_keys_getD t u .empty

/-- Listing an action with the empty policy shows in the list of actions and nowhere else. -/
theorem insert_empty {t : PolicyTable} {action : String} (h : action ∉ t.actions) :
    t.insert action .empty ≠ t ∧
      ∀ a, PolicyTable.resolve (t.insert action .empty) a = t.resolve a := by
  constructor
  · intro e
    apply h
    rw [actions, SortedMap.mem_keys, ← e, SortedMap.get?_insert, if_pos rfl]
    rfl
  · intro a
    rw [resolve_insert]
    split
    · rename_i hName
      rw [← hName, resolve_eq_empty h]
    · rfl

/-- What holds of the table `t` that a history leaves of the table `start`. -/
structure Records (start : PolicyTable) (history : History) (t : PolicyTable) : Prop where
  /-- The last insertion under exactly this name, or else what the first table gives. -/
  resolve : ∀ a, t.resolve a = (lastUnder a history).getD (start.resolve a)
  unlisted : ∀ a, a ∉ start.actions → start.resolve a = .empty
  /-- The list of actions is the one list of these names in strictly increasing bytewise order. -/
  actions : ∀ names, t.actions = names ↔
    (names.Pairwise fun a b => Bytes.ofText a < Bytes.ofText b) ∧
      ∀ a, a ∈ names ↔ a ∈ start.actions ∨ a ∈ history.map (·.1)
  equal : ∀ start' history', t = after start' history' ↔
    t.actions = (after start' history').actions ∧
      ∀ a, t.resolve a = (after start' history').resolve a
  /-- Insertions under different names may change places. -/
  order : ∀ history', (∀ a, (history'.filter fun e => e.1 = a) = history.filter fun e => e.1 = a) →
    after start history' = t
  /-- An action that is listed with the empty policy resolves as if it were not listed. -/
  listing : ∀ a, a ∉ t.actions → after start (history ++ [(a, .empty)]) ≠ t ∧
    ∀ b, (after start (history ++ [(a, .empty)])).resolve b = t.resolve b

/-- A table is the finite map that its history describes. -/
theorem after_records (start : PolicyTable) (history : History) :
    Records start history (after start history) where
  resolve := resolve_after start history
  unlisted := fun _ => resolve_eq_empty
  actions := actions_after start history
  equal := fun start' history' => eq_iff _ (after start' history')
  order := fun history' h => after_congr fun a => by rw [lastUnder, lastUnder, h a]
  listing := fun a h => by
    rw [after_append]
    exact insert_empty h

/-- The second insertion under a name counts, whatever comes between, and names differ by case. -/
example :
    let t := after .empty [("test", .empty), ("Test", .empty), ("test", ⟨[], ["--lib"]⟩)]
    t.actions = ["Test", "test"] ∧ t.resolve "test" = ⟨[], ["--lib"]⟩ := by
  decide

end PolicyTable

end BuildDispatch
