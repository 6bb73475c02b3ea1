import BuildDispatch.Proofs.Toml.Tree

/-! No table of a document holds a key twice.  Every change of the tree of tables puts a node under
a new name or in the place of the one that has it; so what is read off a text, be it an inline table
or the whole document, has distinct keys at every level. -/

namespace BuildDispatch.Toml

/-- A value without other values in it. -/
def Value.isScalar : Value → Bool
  | .array _ _ | .table _ => false
  | _ => true

/-- In all tables inside a value, the value itself included, no key occurs twice. -/
inductive Value.HasDistinctKeys : Value → Prop
  | scalar {v : Value} (h : v.isScalar = true) : HasDistinctKeys v
  | array {form : ArrayForm} {items : List Value} (hItems : ∀ v ∈ items, HasDistinctKeys v) :
    HasDistinctKeys (.array form items)
  | table {entries : List (String × Value)} (hKeys : (entries.map (·.1)).Nodup)
      (hValues : ∀ e ∈ entries, HasDistinctKeys e.2) : HasDistinctKeys (.table entries)

namespace Value.HasDistinctKeys

variable {entries : Entries}

theorem items {form : ArrayForm} {l : List Value} (h : HasDistinctKeys (.array form l)) :
    ∀ v ∈ l, HasDistinctKeys v := by
  cases h with
  | scalar h => cases h
  | array hItems => exact hItems

theorem keys (h : HasDistinctKeys (.table entries)) : (entries.map (·.1)).Nodup := by
  cases h with
  | scalar h => cases h
  | table hKeys _ => exact hKeys

theorem values (h : HasDistinctKeys (.table entries)) : ∀ e ∈ entries, HasDistinctKeys e.2 := by
  cases h with
  | scalar h => cases h
  | table _ hValues => exact hValues

end Value.HasDistinctKeys

open Value (HasDistinctKeys)

/-! ### Trees -/

namespace Fields

/-- The table that fields stand for has distinct keys. -/
def HaveDistinctKeys (fields : Fields) : Prop := HasDistinctKeys (.table (Fields.entries fields))

theorem haveDistinctKeys_iff {fields : Fields} :
    fields.HaveDistinctKeys ↔
      (names fields).Nodup ∧ ∀ e ∈ fields, HasDistinctKeys e.2.value := by
  have hNames : (Fields.entries fields).map (·.1) = names fields := by
    rw [entries_eq_map, List.map_map]
    rfl
  constructor
  · intro h
    refine ⟨hNames ▸ h.keys, fun e he => h.values (e.1, e.2.value) ?_⟩
    rw [entries_eq_map]
    exact List.mem_map_of_mem he
  · rintro ⟨hNodup, hNodes⟩
    refine .table (hNames ▸ hNodup) fun e he => ?_
    rw [entries_eq_map] at he
    obtain ⟨e', he', rfl⟩ := List.mem_map.mp he
    exact hNodes e' he'

theorem haveDistinctKeys_nil : HaveDistinctKeys [] :=
  haveDistinctKeys_iff.mpr ⟨List.nodup_nil, fun _ he => absurd he List.not_mem_nil⟩

variable {fields : Fields} {name : String} {node : Node}

theorem mem_of_find? (h : fields.find? name = some node) : (name, node) ∈ fields := by
  induction fields with
  | nil => cases h
  | cons e fields ih =>
    obtain ⟨other, old⟩ := e
    rw [find?] at h
    split at h
    · rename_i hName
      cases h
      rw [hName]
      exact List.mem_cons_self
    · exact List.mem_cons_of_mem _ (ih h)

theorem mem_put {e : String × Node} (h : e ∈ fields.put name node) :
    e = (name, node) ∨ e ∈ fields := by
  induction fields with
  | nil => exact .inl (List.mem_singleton.mp h)
  | cons first fields ih =>
    obtain ⟨other, old⟩ := first
    rw [put] at h
    split at h
    · exact (List.mem_cons.mp h).imp id (List.mem_cons_of_mem _)
    · rcases List.mem_cons.mp h with rfl | h
      · exact .inr List.mem_cons_self
      · exact (ih h).imp id (List.mem_cons_of_mem _)

theorem names_put_of_mem (h : name ∈ names fields) (node : Node) :
    names (fields.put name node) = names fields := by
  induction fields with
  | nil => cases h
  | cons e fields ih =>
    obtain ⟨other, old⟩ := e
    rw [put]
    split
    · rename_i hName
      simp [names, hName]
    · rename_i hName
      have hRest : name ∈ names fields := by
        rcases List.mem_cons.mp h with hFirst | hRest
        · exact absurd hFirst.symm hName
        · exact hRest
      exact congrArg (other :: ·) (ih hRest)

theorem names_put_nodup (h : (names fields).Nodup) : (names (fields.put name node)).Nodup := by
  by_cases hName : name ∈ names fields
  · rwa [names_put_of_mem hName]
  · rw [put_new hName, names, List.map_append]
    refine List.nodup_append.mpr ⟨h, List.nodup_singleton name, fun other hOther last hLast => ?_⟩
    rw [List.mem_singleton.mp hLast]
    rintro rfl
    exact hName hOther

/-- A node with distinct keys may be put anywhere. -/
theorem HaveDistinctKeys.put (h : fields.HaveDistinctKeys) (hNode : HasDistinctKeys node.value) :
    (fields.put name node).HaveDistinctKeys := by
  obtain ⟨hNodup, hNodes⟩ := haveDistinctKeys_iff.mp h
  refine haveDistinctKeys_iff.mpr ⟨names_put_nodup hNodup, fun e he => ?_⟩
  rcases mem_put he with rfl | he
  · exact hNode
  · exact hNodes e he

theorem HaveDistinctKeys.erase (h : fields.HaveDistinctKeys) (name : String) :
    (fields.erase name).HaveDistinctKeys := by
  obtain ⟨hNodup, hNodes⟩ := haveDistinctKeys_iff.mp h
  have hPart : (fields.erase name).Sublist fields := List.filter_sublist
  exact haveDistinctKeys_iff.mpr
    ⟨hNodup.sublist (hPart.map _), fun e he => hNodes e (hPart.subset he)⟩

theorem HaveDistinctKeys.value (h : fields.HaveDistinctKeys)
    (hFind : fields.find? name = some node) : HasDistinctKeys node.value :=
  (haveDistinctKeys_iff.mp h).2 _ (mem_of_find? hFind)

/-- The tables of a run have distinct keys exactly if each of them has. -/
theorem hasDistinctKeys_tables {elements : List Fields} :
    HasDistinctKeys (Node.value (.tables elements)) ↔
      ∀ fields ∈ elements, HaveDistinctKeys fields := by
  have hValues : Node.elementValues elements =
      elements.map fun fields => .table (Fields.entries fields) := by
    induction elements with
    | nil => rfl
    | cons fields elements ih => rw [Node.elementValues, List.map_cons, ih]
  rw [Node.value, hValues]
  constructor
  · intro h fields hFields
    exact h.items _ (List.mem_map_of_mem hFields)
  · intro h
    refine .array fun v hv => ?_
    obtain ⟨fields, hFields, rfl⟩ := List.mem_map.mp hv
    exact h fields hFields

theorem forall_mem_changeLast? {α : Type} {P : α → Prop} {f : α → Option α} {l l' : List α}
    (hf : ∀ a b, P a → f a = some b → P b) (hl : ∀ a ∈ l, P a) (h : changeLast? f l = some l') :
    ∀ a ∈ l', P a := by
  induction l generalizing l' with
  | nil => cases h
  | cons a l ih =>
    cases l with
    | nil =>
      obtain ⟨b, hb, rfl⟩ := Option.map_eq_some_iff.mp h
      intro c hc
      rw [List.mem_singleton.mp hc]
      exact hf a b (hl a List.mem_cons_self) hb
    | cons next l =>
      obtain ⟨changed, hChanged, rfl⟩ := Option.map_eq_some_iff.mp h
      have hRest := ih (fun c hc => hl c (List.mem_cons_of_mem _ hc)) hChanged
      intro c hc
      rcases List.mem_cons.mp hc with rfl | hc
      · exact hl c List.mem_cons_self
      · exact hRest c hc

/-- A change at the end of a path keeps keys distinct if it does so where it is made. -/
theorem HaveDistinctKeys.changeAt {made : Origin} {change : Origin → Fields → Option Fields}
    (hChange : ∀ origin inner changed, HaveDistinctKeys inner → change origin inner = some changed →
      HaveDistinctKeys changed)
    {path : List String} {origin : Origin} {fields changed : Fields} (h : fields.HaveDistinctKeys)
    (hChanged : changeAt made change path origin fields = some changed) :
    changed.HaveDistinctKeys := by
  induction path generalizing origin fields changed with
  | nil => exact hChange origin fields changed h hChanged
  | cons name path ih =>
    rw [Fields.changeAt] at hChanged
    split at hChanged
    · obtain ⟨inner, hInner, hPut⟩ := Option.bind_eq_some_iff.mp hChanged
      cases hPut
      exact h.put (ih haveDistinctKeys_nil hInner)
    · cases hChanged
    · rename_i elements hFind
      obtain ⟨elements', hElements, hPut⟩ := Option.bind_eq_some_iff.mp hChanged
      cases hPut
      refine h.put (hasDistinctKeys_tables.mpr ?_)
      have hOld := hasDistinctKeys_tables.mp (h.value hFind)
      exact forall_mem_changeLast? (fun _ _ => ih) hOld hElements
    · rename_i inner hFind
      split at hChanged
      · cases hChanged
      · obtain ⟨inner', hInner, hPut⟩ := Option.bind_eq_some_iff.mp hChanged
        cases hPut
        exact h.put (ih (h.value hFind) hInner)

theorem HaveDistinctKeys.assign {key : KeyPath} {value : Value} (hValue : HasDistinctKeys value)
    {origin : Origin} {changed : Fields} (h : fields.HaveDistinctKeys)
    (hChanged : assign key value origin fields = some changed) : changed.HaveDistinctKeys := by
  refine h.changeAt (fun origin inner changed hInner hAssigned => ?_) hChanged
  split at hAssigned
  · cases hAssigned
  · split at hAssigned
    · cases hAssigned
    · cases hAssigned
      exact hInner.put hValue

theorem HaveDistinctKeys.assignPairs {pairs : List (KeyPath × Value)} {changed : Fields}
    (h : fields.HaveDistinctKeys) (hPairs : ∀ p ∈ pairs, HasDistinctKeys p.2)
    (hChanged : pairs.foldlM (fun fields p => Fields.assign p.1 p.2 .header fields) fields =
      some changed) : changed.HaveDistinctKeys := by
  induction pairs generalizing fields with
  | nil =>
    cases hChanged
    exact h
  | cons pair pairs ih =>
    obtain ⟨next, hNext, hChanged⟩ := Option.bind_eq_some_iff.mp hChanged
    obtain ⟨hPair, hMore⟩ := List.forall_mem_cons.mp hPairs
    exact ih (h.assign hPair hNext) hMore hChanged

theorem HaveDistinctKeys.openTable {key : KeyPath} {changed : Fields} (h : fields.HaveDistinctKeys)
    (hChanged : openTable key fields = some changed) : changed.HaveDistinctKeys := by
  refine h.changeAt (fun origin inner changed hInner hOpened => ?_) hChanged
  split at hOpened
  · cases hOpened
    exact hInner.put haveDistinctKeys_nil
  · rename_i found hFind
    cases hOpened
    -- How a table came about does not show in its value.
    have hFound : HaveDistinctKeys found := hInner.value hFind
    exact (hInner.erase _).put hFound
  · cases hOpened

theorem HaveDistinctKeys.openElement {key : KeyPath} {changed : Fields}
    (h : fields.HaveDistinctKeys) (hChanged : openElement key fields = some changed) :
    changed.HaveDistinctKeys := by
  refine h.changeAt (fun origin inner changed hInner hOpened => ?_) hChanged
  split at hOpened
  · cases hOpened
    refine hInner.put (hasDistinctKeys_tables.mpr fun element hElement => ?_)
    rw [List.mem_singleton.mp hElement]
    exact haveDistinctKeys_nil
  · rename_i elements hFind
    cases hOpened
    refine hInner.put (hasDistinctKeys_tables.mpr fun element hElement => ?_)
    rcases List.mem_append.mp hElement with hOld | hNew
    · exact hasDistinctKeys_tables.mp (hInner.value hFind) element hOld
    · rw [List.mem_singleton.mp hNew]
      exact haveDistinctKeys_nil
  · cases hOpened

end Fields

/-! ### Values -/

namespace Value

/-- All values that a reader takes off texts have distinct keys. -/
def ReadsDistinct (item : Reader Value) : Prop :=
  ∀ s v r, item s = some (v, r) → HasDistinctKeys v

theorem isScalar_of_integer {n : Int} {rest r : List Char} {v : Value}
    (h : (if Number.fitsInteger n then some (Value.integer n, rest) else none) = some (v, r)) :
    v.isScalar = true := by
  split at h
  · cases h
    rfl
  · cases h

theorem isScalar_of_readBased {base : Nat} {isDigit : Char → Bool} {s r : List Char} {v : Value}
    (h : Number.readBased base isDigit s = some (v, r)) : v.isScalar = true := by
  obtain ⟨⟨digits, rest⟩, -, h⟩ := Option.bind_eq_some_iff.mp h
  exact isScalar_of_integer h

theorem isScalar_of_readInteger {s r : List Char} {v : Value}
    (h : Number.readInteger s = some (v, r)) : v.isScalar = true := by
  unfold Number.readInteger at h
  split at h
  · exact isScalar_of_readBased h
  · exact isScalar_of_readBased h
  · exact isScalar_of_readBased h
  · generalize Number.readSign s = sign at h
    obtain ⟨negative, rest⟩ := sign
    obtain ⟨⟨digits, rest⟩, -, h⟩ := Option.bind_eq_some_iff.mp h
    exact isScalar_of_integer h

theorem isScalar_of_readDecimal {s r : List Char} {v : Value}
    (h : Number.readDecimal s = some (v, r)) : v.isScalar = true := by
  unfold Number.readDecimal at h
  generalize Number.readSign s = sign at h
  obtain ⟨negative, rest⟩ := sign
  obtain ⟨⟨whole, rest⟩, -, h⟩ := Option.bind_eq_some_iff.mp h
  have hFloat : ∀ (x : Decimal.Binary64) (rest : List Char),
      (if x = .infinite false then none else some (Value.float x, rest)) = some (v, r) →
        v.isScalar = true := by
    intro x rest h
    split at h
    · cases h
    · cases h
      rfl
  dsimp only at h
  split at h
  · split at h
    · exact hFloat _ _ h
    · exact hFloat _ _ h
  · obtain ⟨⟨places, power, rest⟩, -, h⟩ := Option.bind_eq_some_iff.mp h
    exact hFloat _ _ h

theorem isScalar_of_readSpecial {s r : List Char} {v : Value}
    (h : Number.readSpecial s = some (v, r)) : v.isScalar = true := by
  unfold Number.readSpecial at h
  dsimp only at h
  split at h
  · cases h
    rfl
  · cases h
    rfl
  · cases h

theorem isScalar_of_readNumeric {s r : List Char} {v : Value}
    (h : readNumeric s = some (v, r)) : v.isScalar = true := by
  unfold readNumeric at h
  split at h
  · cases h
    rfl
  · split at h
    · rename_i hDecimal
      exact isScalar_of_readDecimal (hDecimal.trans h)
    · split at h
      · rename_i hSpecial
        exact isScalar_of_readSpecial (hSpecial.trans h)
      · exact isScalar_of_readInteger h

theorem isScalar_of_readBoolean {s r : List Char} {v : Value}
    (h : readBoolean s = some (v, r)) : v.isScalar = true := by
  unfold readBoolean at h
  split at h
  · cases h
    rfl
  · cases h
    rfl
  · cases h

theorem isScalar_of_readScalar {s r : List Char} {v : Value}
    (h : readScalar s = some (v, r)) : v.isScalar = true := by
  unfold readScalar at h
  split at h
  · cases h
  · split at h
    · obtain ⟨text, -, hText⟩ := Option.map_eq_some_iff.mp h
      cases hText
      rfl
    · split at h
      · exact isScalar_of_readBoolean h
      · split at h
        · exact isScalar_of_readSpecial h
        · split at h
          · exact isScalar_of_readNumeric h
          · cases h

theorem hasDistinctKeys_of_ofPairs? {pairs : List (KeyPath × Value)} {v : Value}
    (hPairs : ∀ p ∈ pairs, HasDistinctKeys p.2) (h : ofPairs? pairs = some v) :
    HasDistinctKeys v := by
  obtain ⟨fields, hFields, h⟩ := Option.bind_eq_some_iff.mp h
  cases h
  exact Fields.haveDistinctKeys_nil.assignPairs hPairs hFields

section Nested

variable {item : Reader Value} (hItem : ReadsDistinct item)
include hItem

theorem ReadsDistinct.readItems {fuel : Nat} {s r : List Char} {values : List Value}
    (h : readItems item fuel s = some (values, r)) : ∀ v ∈ values, HasDistinctKeys v := by
  induction fuel generalizing s values with
  | zero => cases h
  | succ fuel ih =>
    rw [Value.readItems] at h
    split at h
    · cases h
      exact fun v hv => absurd hv List.not_mem_nil
    · obtain ⟨⟨value, rest⟩, hValue, h⟩ := Option.bind_eq_some_iff.mp h
      have hFirst := hItem _ _ _ hValue
      dsimp only at h
      split at h
      · obtain ⟨⟨more, rest⟩, hMore, h⟩ := Option.bind_eq_some_iff.mp h
        cases h
        exact List.forall_mem_cons.mpr ⟨hFirst, ih hMore⟩
      · cases h
        exact fun v hv => List.mem_singleton.mp hv ▸ hFirst
      · cases h

theorem ReadsDistinct.readPair {s r : List Char} {pair : KeyPath × Value}
    (h : readPair item s = some (pair, r)) : HasDistinctKeys pair.2 := by
  obtain ⟨⟨key, rest⟩, -, h⟩ := Option.bind_eq_some_iff.mp h
  obtain ⟨rest, -, h⟩ := Option.bind_eq_some_iff.mp h
  obtain ⟨⟨value, rest⟩, hValue, h⟩ := Option.bind_eq_some_iff.mp h
  cases h
  exact hItem _ _ _ hValue

theorem ReadsDistinct.readPairs {fuel : Nat} {s r : List Char} {pairs : List (KeyPath × Value)}
    (h : readPairs item fuel s = some (pairs, r)) : ∀ p ∈ pairs, HasDistinctKeys p.2 := by
  induction fuel generalizing s pairs with
  | zero => cases h
  | succ fuel ih =>
    rw [Value.readPairs] at h
    obtain ⟨⟨pair, rest⟩, hPair, h⟩ := Option.bind_eq_some_iff.mp h
    have hFirst := ReadsDistinct.readPair hItem hPair
    dsimp only at h
    split at h
    · obtain ⟨⟨more, rest⟩, hMore, h⟩ := Option.bind_eq_some_iff.mp h
      cases h
      exact List.forall_mem_cons.mpr ⟨hFirst, ih hMore⟩
    · cases h
      exact fun p hp => List.mem_singleton.mp hp ▸ hFirst
    · cases h

theorem ReadsDistinct.readInline : ReadsDistinct (readInline item) := by
  intro s v r h
  unfold Value.readInline at h
  split at h
  · cases h
    exact .table List.nodup_nil fun e he => absurd he List.not_mem_nil
  · obtain ⟨⟨pairs, rest⟩, hPairs, h⟩ := Option.bind_eq_some_iff.mp h
    obtain ⟨table, hTable, h⟩ := Option.bind_eq_some_iff.mp h
    cases h
    exact hasDistinctKeys_of_ofPairs? (ReadsDistinct.readPairs hItem hPairs) hTable

end Nested

theorem readsDistinct_read (room : Nat) : ReadsDistinct (read room) := by
  induction room with
  | zero =>
    intro s v r h
    exact .scalar (isScalar_of_readScalar h)
  | succ room ih =>
    intro s v r h
    unfold read at h
    split at h
    · rename_i hRoom
      cases hRoom
      obtain ⟨⟨items, rest⟩, hItems, h⟩ := Option.map_eq_some_iff.mp h
      cases h
      exact .array (ReadsDistinct.readItems ih hItems)
    · rename_i hRoom
      cases hRoom
      exact ReadsDistinct.readInline ih _ _ _ h
    · exact .scalar (isScalar_of_readScalar h)

end Value

/-! ### Documents -/

/-- The value that a statement gives, if it does, has distinct keys. -/
def Statement.IsDistinct : Statement → Prop
  | .pair _ value => HasDistinctKeys value
  | .table _ | .element _ => True

theorem Statement.isDistinct_of_read {s r : List Char} {statement : Statement}
    (h : Statement.read s = some (statement, r)) : statement.IsDistinct := by
  unfold Statement.read at h
  split at h
  · obtain ⟨⟨key, rest⟩, -, h⟩ := Option.bind_eq_some_iff.mp h
    obtain ⟨rest, -, h⟩ := Option.bind_eq_some_iff.mp h
    obtain ⟨rest, -, h⟩ := Option.bind_eq_some_iff.mp h
    cases h
    trivial
  · obtain ⟨⟨key, rest⟩, -, h⟩ := Option.bind_eq_some_iff.mp h
    obtain ⟨rest, -, h⟩ := Option.bind_eq_some_iff.mp h
    obtain ⟨rest, -, h⟩ := Option.bind_eq_some_iff.mp h
    cases h
    trivial
  · obtain ⟨⟨⟨key, value⟩, rest⟩, hPair, h⟩ := Option.bind_eq_some_iff.mp h
    obtain ⟨rest, -, h⟩ := Option.bind_eq_some_iff.mp h
    cases h
    exact Value.ReadsDistinct.readPair (Value.readsDistinct_read _) hPair

theorem Statement.isDistinct_of_readAll {fuel : Nat} {s : List Char} {l : List Statement}
    (h : Statement.readAll fuel s = some l) : ∀ statement ∈ l, statement.IsDistinct := by
  induction fuel generalizing s l with
  | zero => cases h
  | succ fuel ih =>
    rw [Statement.readAll] at h
    split at h
    · cases h
      exact fun statement hMem => absurd hMem List.not_mem_nil
    · split at h
      · exact ih h
      · obtain ⟨⟨first, rest⟩, hFirst, h⟩ := Option.bind_eq_some_iff.mp h
        obtain ⟨more, hMore, h⟩ := Option.bind_eq_some_iff.mp h
        cases h
        exact List.forall_mem_cons.mpr ⟨Statement.isDistinct_of_read hFirst, ih hMore⟩

/-- One more statement keeps the keys of a draft distinct. -/
theorem Draft.haveDistinctKeys_of_add {d d' : Draft} {statement : Statement}
    (hStatement : statement.IsDistinct) (hRoot : d.root.HaveDistinctKeys)
    (h : d.add statement = some d') : d'.root.HaveDistinctKeys := by
  cases statement with
  | pair key value =>
    obtain ⟨root, hAssigned, h⟩ := Option.bind_eq_some_iff.mp h
    cases h
    exact hRoot.changeAt (fun _ _ _ hInner => hInner.assign hStatement) hAssigned
  | table key =>
    obtain ⟨root, hOpened, h⟩ := Option.bind_eq_some_iff.mp h
    cases h
    exact hRoot.openTable hOpened
  | element key =>
    obtain ⟨root, hOpened, h⟩ := Option.bind_eq_some_iff.mp h
    cases h
    exact hRoot.openElement hOpened

theorem Draft.haveDistinctKeys_of_foldlM {l : List Statement} {d d' : Draft}
    (hStatements : ∀ statement ∈ l, statement.IsDistinct) (hRoot : d.root.HaveDistinctKeys)
    (h : l.foldlM Draft.add d = some d') : d'.root.HaveDistinctKeys := by
  induction l generalizing d with
  | nil =>
    cases h
    exact hRoot
  | cons statement l ih =>
    obtain ⟨next, hNext, h⟩ := Option.bind_eq_some_iff.mp h
    obtain ⟨hFirst, hMore⟩ := List.forall_mem_cons.mp hStatements
    exact ih hMore (Draft.haveDistinctKeys_of_add hFirst hRoot hNext) h

/-- A document has distinct keys, in itself and in all tables inside it. -/
theorem hasDistinctKeys_of_parse? {text : String} {entries : Entries}
    (h : parse? text = some entries) : HasDistinctKeys (.table entries) := by
  obtain ⟨l, hStatements, h⟩ := Option.bind_eq_some_iff.mp h
  obtain ⟨d, hDraft, h⟩ := Option.bind_eq_some_iff.mp h
  cases h
  exact Draft.haveDistinctKeys_of_foldlM (Statement.isDistinct_of_readAll hStatements)
    Fields.haveDistinctKeys_nil hDraft

end BuildDispatch.Toml
