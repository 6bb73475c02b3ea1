import BuildDispatch.Config.Schema
import BuildDispatch.Proofs.Results
import BuildDispatch.Proofs.SortedMap.Insertions
import BuildDispatch.Proofs.Toml.DistinctKeys
import Mathlib.Tactic.MkIffOfInductiveProp

/-! What the parts of a document are decoded to.  A structure is decoded from what is found under
the names of its fields, each on its own; `Found` says what is found under one name, and every
decoder of a structure has one lemma that puts the fields together.  An array in place of a
structure counts as a table in which the first fields are named in order. -/

namespace BuildDispatch

open Toml

namespace Schema

open SortedMap (lookup)

/-! ### Keys -/

theorem lookup_eq_some_iff {α : Type} {key : String} {a : α} {l : List (String × α)}
    (h : (l.map (·.1)).Nodup) : lookup key l = some a ↔ (key, a) ∈ l := by
  refine ⟨SortedMap.mem_of_lookup, fun hMem => ?_⟩
  induction l with
  | nil => cases hMem
  | cons e l ih =>
    rw [List.map_cons, List.nodup_cons] at h
    rcases List.mem_cons.mp hMem with rfl | hMem
    · rw [lookup, if_pos rfl]
    · have hKey : e.1 ≠ key := fun hSame => h.1 (List.mem_map.mpr ⟨_, hMem, hSame.symm⟩)
      rw [lookup, if_neg hKey, ih h.2 hMem]

theorem eq_of_mem_of_mem {α : Type} {key : String} {a b : α} {l : List (String × α)}
    (h : (l.map (·.1)).Nodup) (ha : (key, a) ∈ l) (hb : (key, b) ∈ l) : a = b := by
  rw [← lookup_eq_some_iff h] at ha hb
  exact Option.some.inj (ha.symm.trans hb)

/-- Under a key, entries have a value that is decoded to what `x` holds; or they lack the key, and
`x` is empty. -/
def Found {α : Type} (read : Value → Decoded α) (entries : Entries) (key : String)
    (x : Option α) : Prop :=
  (lookup key entries).map read = x.map .ok

section Found

variable {α : Type} {read : Value → Decoded α} {entries : Entries} {key : String} {x y : Option α}

theorem Found.unique (hx : Found read entries key x) (hy : Found read entries key y) : x = y :=
  Option.map_injective (fun _ _ => Except.ok.inj) (hx.symm.trans hy)

theorem Found.exists_read (h : Found read entries key x) (hKeys : (entries.map (·.1)).Nodup)
    {v : Value} (hMem : (key, v) ∈ entries) : ∃ a, x = some a ∧ read v = .ok a := by
  rw [Found, (lookup_eq_some_iff hKeys).mpr hMem, Option.map_some, eq_comm,
    Option.map_eq_some_iff] at h
  obtain ⟨a, ha, hRead⟩ := h
  exact ⟨a, ha, hRead.symm⟩

end Found

/-! ### Structures -/

section Structures

variable {α F : Type} {decode : String × Value → Decoded F} {keyOf : F → Option String}
  {key : String} {read : Value → Decoded α} {wrap : α → F} {pick : F → Option α}
  {entries : Entries} {fields : List F}

/-- Decoded fields belong to the keys of their entries, those of unknown keys to none. -/
def KeepsKeys (decode : String × Value → Decoded F) (keyOf : F → Option String) : Prop :=
  ∀ key v f, decode (key, v) = .ok f → ∀ k, keyOf f = some k → k = key

theorem eq_of_wrapped {other : String} {v v' : Value} {x : Decoded α} {f : F} {k : String}
    (hEntry : (other, v) = (key, v')) (h : wrap <$> x = .ok f) (hk : keyOf f = some k)
    (hWrap : ∀ a, keyOf (wrap a) = some key) : k = other := by
  obtain ⟨a, -, rfl⟩ := map_eq_ok_iff.mp h
  cases hEntry
  exact Option.some.inj (hk.symm.trans (hWrap a))

/-- Entries with the key `key` are read by `read`, and `pick` finds what was read. -/
structure Selects (decode : String × Value → Decoded F) (keyOf : F → Option String) (key : String)
    (read : Value → Decoded α) (wrap : α → F) (pick : F → Option α) : Prop where
  reads : ∀ v, decode (key, v) = wrap <$> read v
  picks : ∀ a, pick (wrap a) = some a
  belongs : ∀ f a, pick f = some a → keyOf f = some key

/-- What is picked from decoded fields is what was found under the key. -/
theorem Selects.found (h : Selects decode keyOf key read wrap pick)
    (hKeep : KeepsKeys decode keyOf) (hFields : entries.mapM decode = .ok fields) :
    Found read entries key (fields.findSome? pick) := by
  rw [mapM_eq_ok_iff] at hFields
  induction entries generalizing fields with
  | nil =>
    rw [List.map_eq_nil_iff.mp hFields.symm]
    rfl
  | cons e entries ih =>
    obtain ⟨other, v⟩ := e
    cases fields with
    | nil => cases hFields
    | cons f fields =>
      rw [List.map_cons, List.map_cons, List.cons.injEq] at hFields
      by_cases hKey : other = key
      · subst hKey
        obtain ⟨a, ha, rfl⟩ := map_eq_ok_iff.mp ((h.reads v).symm.trans hFields.1)
        rw [Found, List.findSome?_cons, h.picks, lookup, if_pos rfl, Option.map_some, ha]
        rfl
      · -- A field belongs to the key that it was decoded under, so `pick` passes over this one.
        have hOther : pick f = none := by
          cases hPick : pick f with
          | none => rfl
          | some a => exact absurd (hKeep other v f hFields.1 key (h.belongs f a hPick)).symm hKey
        rw [Found, List.findSome?_cons, hOther, lookup, if_neg hKey]
        exact ih hFields.2

theorem Selects.exists_decode (h : Selects decode keyOf key read wrap pick)
    (hKeys : (entries.map (·.1)).Nodup) {x : Option α} (hFound : Found read entries key x)
    {v : Value} (hMem : (key, v) ∈ entries) : ∃ f, decode (key, v) = .ok f := by
  obtain ⟨a, -, hRead⟩ := hFound.exists_read hKeys hMem
  exact ⟨wrap a, (h.reads v).trans (map_eq_ok_iff.mpr ⟨a, hRead, rfl⟩)⟩

end Structures

/-- The entries of a structure: an array gives the fields their values in order. -/
def namedEntries? (keys : List String) : Value → Option Entries
  | .array _ items => some (keys.zip items)
  | v => entries? v

theorem keys_zip (keys : List String) (items : List Value) :
    (keys.zip items).map (·.1) = keys.take items.length := by
  induction keys generalizing items with
  | nil => rw [List.zip_nil_left, List.take_nil, List.map_nil]
  | cons key keys ih =>
    cases items with
    | nil => rfl
    | cons v items =>
      rw [List.zip_cons_cons, List.map_cons, ih, List.length_cons, List.take_succ_cons]

theorem nodup_keys_zip {keys : List String} (h : keys.Nodup) (items : List Value) :
    ((keys.zip items).map (·.1)).Nodup := by
  rw [keys_zip]
  exact h.sublist (List.take_sublist _ _)

/-! ### Overrides -/

/-- The names of the fields of an override, in order. -/
def overrideKeys : List String := ["name", "value", "mode"]

/-- The key of a decoded field. -/
def OverrideField.key? : OverrideField → Option String
  | .name _ => some "name"
  | .value _ => some "value"
  | .mode _ => some "mode"
  | .unknown => none

theorem OverrideField.keepsKeys : KeepsKeys OverrideField.decode OverrideField.key? := by
  intro key v f h k hk
  unfold OverrideField.decode at h
  split at h
  · exact eq_of_wrapped ‹_› h hk fun _ => rfl
  · exact eq_of_wrapped ‹_› h hk fun _ => rfl
  · exact eq_of_wrapped ‹_› h hk fun _ => rfl
  · cases h
    cases hk

theorem OverrideField.decode_unknown {key : String} (h : key ∉ overrideKeys) (v : Value) :
    OverrideField.decode (key, v) = .ok .unknown := by
  unfold OverrideField.decode
  split
  all_goals first
    | rfl
    | rename_i hEntry
      cases hEntry
      exact absurd h (by decide)

theorem selects_name :
    Selects OverrideField.decode OverrideField.key? "name" text .name OverrideField.name? where
  reads _ := rfl
  picks _ := rfl
  belongs f _ h := by cases f <;> first | rfl | cases h

theorem selects_value :
    Selects OverrideField.decode OverrideField.key? "value" text .value OverrideField.value? where
  reads _ := rfl
  picks _ := rfl
  belongs f _ h := by cases f <;> first | rfl | cases h

theorem selects_mode :
    Selects OverrideField.decode OverrideField.key? "mode" mode .mode OverrideField.mode? where
  reads _ := rfl
  picks _ := rfl
  belongs f _ h := by cases f <;> first | rfl | cases h

/-- What the entries of an override have under the names of its fields. -/
@[mk_iff]
structure OverrideIs (entries : Entries) (o : EnvOverride) : Prop where
  name : Found text entries "name" (some o.name)
  value : Found text entries "value" (some o.value)
  mode : ∃ m, Found Schema.mode entries "mode" m ∧ m.getD .append = o.mode

theorem required_eq_ok {α : Type} {name : String} {x : Option α} {a : α} :
    required name x = .ok a ↔ x = some a := by
  cases x <;> simp [required]

/-- A decoded override tells what its entries have, be their keys distinct or not. -/
theorem overrideIs_of_overrideOfEntries {entries : Entries} {o : EnvOverride}
    (h : overrideOfEntries entries = .ok o) : OverrideIs entries o := by
  have hKeep := OverrideField.keepsKeys
  obtain ⟨fields, hFields, h⟩ := bind_eq_ok_iff.mp h
  obtain ⟨name, hName, h⟩ := bind_eq_ok_iff.mp h
  obtain ⟨value, hValue, h⟩ := bind_eq_ok_iff.mp h
  cases h
  exact {
    name := required_eq_ok.mp hName ▸ selects_name.found hKeep hFields
    value := required_eq_ok.mp hValue ▸ selects_value.found hKeep hFields
    mode := ⟨_, selects_mode.found hKeep hFields, rfl⟩ }

theorem overrideOfEntries_eq_ok {entries : Entries} {o : EnvOverride}
    (hKeys : (entries.map (·.1)).Nodup) :
    overrideOfEntries entries = .ok o ↔ OverrideIs entries o := by
  have hKeep := OverrideField.keepsKeys
  constructor
  · exact overrideIs_of_overrideOfEntries
  · rintro ⟨hName, hValue, m, hMode, hm⟩
    have hAll : ∀ e ∈ entries, ∃ f, OverrideField.decode e = .ok f := by
      rintro ⟨key, v⟩ hMem
      by_cases hKey : key ∈ overrideKeys
      · simp only [overrideKeys, List.mem_cons, List.not_mem_nil, or_false] at hKey
        rcases hKey with rfl | rfl | rfl
        · exact selects_name.exists_decode hKeys hName hMem
        · exact selects_value.exists_decode hKeys hValue hMem
        · exact selects_mode.exists_decode hKeys hMode hMem
      · exact ⟨_, OverrideField.decode_unknown hKey v⟩
    obtain ⟨fields, hFields⟩ := exists_mapM_eq_ok hAll
    refine bind_eq_ok_iff.mpr ⟨fields, hFields, ?_⟩
    rw [(selects_name.found hKeep hFields).unique hName,
      (selects_value.found hKeep hFields).unique hValue,
      (selects_mode.found hKeep hFields).unique hMode, hm]
    rfl

/-- Of the items of an array the first is the name and the second the value. -/
theorem overrideOfItems_eq_ok {items : List Value} {o : EnvOverride} :
    overrideOfItems items = .ok o ↔ OverrideIs (overrideKeys.zip items) o := by
  constructor
  · intro h
    match items with
    | [] => cases h
    | [n] =>
      obtain ⟨name, -, h⟩ := bind_eq_ok_iff.mp h
      cases h
    | [n, v] =>
      obtain ⟨name, hName, h⟩ := bind_eq_ok_iff.mp h
      obtain ⟨value, hValue, h⟩ := bind_eq_ok_iff.mp h
      cases h
      exact ⟨congrArg some hName, congrArg some hValue, none, rfl, rfl⟩
    | n :: v :: m :: _ =>
      obtain ⟨name, hName, h⟩ := bind_eq_ok_iff.mp h
      obtain ⟨value, hValue, h⟩ := bind_eq_ok_iff.mp h
      obtain ⟨mode, hMode, h⟩ := bind_eq_ok_iff.mp h
      cases h
      exact ⟨congrArg some hName, congrArg some hValue, some mode, congrArg some hMode, rfl⟩
  · rintro ⟨hName, hValue, m, hMode, hm⟩
    match items with
    | [] => cases hName
    | [n] => cases hValue
    | [n, v] =>
      have hNone : m = none := Found.unique hMode rfl
      subst hNone
      rw [overrideOfItems, Option.some.inj hName, Option.some.inj hValue]
      exact congrArg Except.ok (congrArg (EnvOverride.mk _ _) hm)
    | n :: v :: w :: _ =>
      obtain ⟨mode, rfl, hRead⟩ := hMode.exists_read
        (nodup_keys_zip (by decide : overrideKeys.Nodup) _)
        (by simp [overrideKeys] : ("mode", w) ∈ overrideKeys.zip _)
      rw [overrideOfItems, Option.some.inj hName, Option.some.inj hValue, hRead]
      exact congrArg Except.ok (congrArg (EnvOverride.mk _ _) hm)

theorem override_eq_ok {v : Value} {entries : Entries} {o : EnvOverride}
    (h : namedEntries? overrideKeys v = some entries) (hKeys : (entries.map (·.1)).Nodup) :
    override v = .ok o ↔ OverrideIs entries o := by
  cases v with
  | array form items =>
    cases h
    exact overrideOfItems_eq_ok
  | table entries =>
    cases h
    exact overrideOfEntries_eq_ok hKeys
  | dateTime d =>
    cases h
    exact overrideOfEntries_eq_ok hKeys
  | _ => cases h

/-! ### Policies -/

/-- The names of the fields of a policy, in order. -/
def policyKeys : List String := ["env", "args"]

/-- The key of a decoded field. -/
def PolicyField.key? : PolicyField → Option String
  | .env _ => some "env"
  | .args _ => some "args"
  | .unknown => none

theorem PolicyField.keepsKeys : KeepsKeys PolicyField.decode PolicyField.key? := by
  intro key v f h k hk
  unfold PolicyField.decode at h
  split at h
  · exact eq_of_wrapped ‹_› h hk fun _ => rfl
  · exact eq_of_wrapped ‹_› h hk fun _ => rfl
  · cases h
    cases hk

theorem PolicyField.decode_unknown {key : String} (h : key ∉ policyKeys) (v : Value) :
    PolicyField.decode (key, v) = .ok .unknown := by
  unfold PolicyField.decode
  split
  all_goals first
    | rfl
    | rename_i hEntry
      cases hEntry
      exact absurd h (by decide)

theorem selects_env :
    Selects PolicyField.decode PolicyField.key? "env" (sequence override) .env
      PolicyField.env? where
  reads _ := rfl
  picks _ := rfl
  belongs f _ h := by cases f <;> first | rfl | cases h

theorem selects_args :
    Selects PolicyField.decode PolicyField.key? "args" (sequence text) .args PolicyField.args? where
  reads _ := rfl
  picks _ := rfl
  belongs f _ h := by cases f <;> first | rfl | cases h

/-- What the entries of a policy have under the names of its fields. -/
@[mk_iff]
structure PolicyIs (entries : Entries) (p : ActionPolicy) : Prop where
  env : ∃ env, Found (sequence override) entries "env" env ∧ env.getD [] = p.env
  args : ∃ args, Found (sequence text) entries "args" args ∧ args.getD [] = p.args

theorem policyOfEntries_eq_ok {entries : Entries} {p : ActionPolicy}
    (hKeys : (entries.map (·.1)).Nodup) :
    policyOfEntries entries = .ok p ↔ PolicyIs entries p := by
  have hKeep := PolicyField.keepsKeys
  rw [policyOfEntries, bind_eq_ok_iff]
  constructor
  · rintro ⟨fields, hFields, h⟩
    cases h
    exact {
      env := ⟨_, selects_env.found hKeep hFields, rfl⟩
      args := ⟨_, selects_args.found hKeep hFields, rfl⟩ }
  · rintro ⟨⟨env, hEnv, he⟩, args, hArgs, ha⟩
    have hAll : ∀ e ∈ entries, ∃ f, PolicyField.decode e = .ok f := by
      rintro ⟨key, v⟩ hMem
      by_cases hKey : key ∈ policyKeys
      · simp only [policyKeys, List.mem_cons, List.not_mem_nil, or_false] at hKey
        rcases hKey with rfl | rfl
        · exact selects_env.exists_decode hKeys hEnv hMem
        · exact selects_args.exists_decode hKeys hArgs hMem
      · exact ⟨_, PolicyField.decode_unknown hKey v⟩
    obtain ⟨fields, hFields⟩ := exists_mapM_eq_ok hAll
    refine ⟨fields, hFields, ?_⟩
    rw [(selects_env.found hKeep hFields).unique hEnv,
      (selects_args.found hKeep hFields).unique hArgs, he, ha]
    rfl

theorem policyOfItems_eq_ok {items : List Value} {p : ActionPolicy} :
    policyOfItems items = .ok p ↔ PolicyIs (policyKeys.zip items) p := by
  constructor
  · intro h
    match items with
    | [] =>
      cases h
      exact ⟨⟨none, rfl, rfl⟩, none, rfl, rfl⟩
    | [e] =>
      obtain ⟨env, hEnv, h⟩ := bind_eq_ok_iff.mp h
      cases h
      exact ⟨⟨some env, congrArg some hEnv, rfl⟩, none, rfl, rfl⟩
    | e :: a :: _ =>
      obtain ⟨env, hEnv, h⟩ := bind_eq_ok_iff.mp h
      obtain ⟨args, hArgs, h⟩ := bind_eq_ok_iff.mp h
      cases h
      exact ⟨⟨some env, congrArg some hEnv, rfl⟩, some args, congrArg some hArgs, rfl⟩
  · rintro ⟨⟨env, hEnv, he⟩, args, hArgs, ha⟩
    have hKeys := nodup_keys_zip (by decide : policyKeys.Nodup) items
    match items with
    | [] =>
      have hNoEnv : env = none := hEnv.unique rfl
      have hNoArgs : args = none := hArgs.unique rfl
      subst hNoEnv hNoArgs
      exact congrArg Except.ok (congrArg₂ ActionPolicy.mk he ha)
    | [e] =>
      have hNoArgs : args = none := hArgs.unique rfl
      subst hNoArgs
      obtain ⟨overrides, rfl, hRead⟩ := hEnv.exists_read hKeys (v := e) (by simp [policyKeys])
      rw [policyOfItems, hRead]
      exact congrArg Except.ok (congrArg₂ ActionPolicy.mk he ha)
    | e :: a :: _ =>
      obtain ⟨overrides, rfl, hRead⟩ := hEnv.exists_read hKeys (v := e) (by simp [policyKeys])
      obtain ⟨words, rfl, hWords⟩ := hArgs.exists_read hKeys (v := a) (by simp [policyKeys])
      rw [policyOfItems, hRead, hWords]
      exact congrArg Except.ok (congrArg₂ ActionPolicy.mk he ha)

theorem policy_eq_ok {v : Value} {entries : Entries} {p : ActionPolicy}
    (h : namedEntries? policyKeys v = some entries) (hKeys : (entries.map (·.1)).Nodup) :
    policy v = .ok p ↔ PolicyIs entries p := by
  cases v with
  | array form items =>
    cases h
    exact policyOfItems_eq_ok
  | table entries =>
    cases h
    exact policyOfEntries_eq_ok hKeys
  | dateTime d =>
    cases h
    exact policyOfEntries_eq_ok hKeys
  | _ => cases h

section Actions

variable {entries : Entries} {t : PolicyTable}

/-- What is under a name in decoded actions was found under it in the entries. -/
theorem found_of_mapM_policy {decoded : List (String × ActionPolicy)}
    (h : entries.mapM (fun e => Prod.mk e.1 <$> policy e.2) = .ok decoded) (name : String) :
    Found policy entries name (lookup name decoded) := by
  rw [mapM_eq_ok_iff] at h
  induction entries generalizing decoded with
  | nil =>
    rw [List.map_eq_nil_iff.mp h.symm]
    rfl
  | cons e entries ih =>
    cases decoded with
    | nil => cases h
    | cons d decoded =>
      rw [List.map_cons, List.map_cons, List.cons.injEq] at h
      obtain ⟨p, hPolicy, rfl⟩ := map_eq_ok_iff.mp h.1
      by_cases hKey : e.1 = name
      · rw [Found, lookup, lookup, if_pos hKey, if_pos hKey, Option.map_some, Option.map_some,
          hPolicy]
      · rw [Found, lookup, lookup, if_neg hKey, if_neg hKey]
        exact ih h.2

theorem keys_of_mapM_policy {decoded : List (String × ActionPolicy)}
    (h : entries.mapM (fun e => Prod.mk e.1 <$> policy e.2) = .ok decoded) :
    decoded.map (·.1) = entries.map (·.1) := by
  rw [mapM_eq_ok_iff] at h
  induction entries generalizing decoded with
  | nil => rw [List.map_eq_nil_iff.mp h.symm, List.map_nil, List.map_nil]
  | cons e entries ih =>
    cases decoded with
    | nil => cases h
    | cons d decoded =>
      rw [List.map_cons, List.map_cons, List.cons.injEq] at h
      obtain ⟨p, -, rfl⟩ := map_eq_ok_iff.mp h.1
      rw [List.map_cons, List.map_cons, ih h.2]

theorem policies_eq_ok (hKeys : (entries.map (·.1)).Nodup) :
    policies (.table entries) = .ok t ↔ ∀ name, Found policy entries name (t.get? name) := by
  change (entries.mapM (fun e => Prod.mk e.1 <$> policy e.2) >>= fun decoded =>
    .ok (.ofList decoded)) = .ok t ↔ _
  rw [bind_eq_ok_iff]
  have hFilled : ∀ decoded, entries.mapM (fun e => Prod.mk e.1 <$> policy e.2) = .ok decoded →
      ∀ name, Found policy entries name ((SortedMap.ofList decoded : PolicyTable).get? name) := by
    intro decoded hDecoded name
    have hNames : (decoded.map (·.1)).Nodup := by rwa [keys_of_mapM_policy hDecoded]
    rw [SortedMap.get?_ofList hNames]
    exact found_of_mapM_policy hDecoded name
  constructor
  · rintro ⟨decoded, hDecoded, h⟩
    cases h
    exact hFilled decoded hDecoded
  · intro hFound
    have hAll : ∀ e ∈ entries, ∃ d, Prod.mk e.1 <$> policy e.2 = .ok d := by
      intro e hMem
      obtain ⟨p, -, hRead⟩ := (hFound e.1).exists_read hKeys hMem
      exact ⟨(e.1, p), map_eq_ok_iff.mpr ⟨p, hRead, rfl⟩⟩
    obtain ⟨decoded, hDecoded⟩ := exists_mapM_eq_ok hAll
    refine ⟨decoded, hDecoded, congrArg Except.ok (SortedMap.ext fun name => ?_)⟩
    exact (hFilled decoded hDecoded name).unique (hFound name)

end Actions

/-! ### Configurations -/

/-- The keys of the settings of a configuration. -/
def settingKeys : List String := ["preset", "tool", "toolchain", "verbose", "actions"]

/-- The key of a decoded setting. -/
def Setting.key? : Setting → Option String
  | .preset _ => some "preset"
  | .tool _ => some "tool"
  | .toolchain _ => some "toolchain"
  | .verbose _ => some "verbose"
  | .actions _ => some "actions"
  | .unknown => none

theorem Setting.keepsKeys : KeepsKeys Setting.decode Setting.key? := by
  intro key v f h k hk
  unfold Setting.decode at h
  split at h
  · exact eq_of_wrapped ‹_› h hk fun _ => rfl
  · exact eq_of_wrapped ‹_› h hk fun _ => rfl
  · exact eq_of_wrapped ‹_› h hk fun _ => rfl
  · exact eq_of_wrapped ‹_› h hk fun _ => rfl
  · exact eq_of_wrapped ‹_› h hk fun _ => rfl
  · cases h
    cases hk

theorem Setting.decode_unknown {key : String} (h : key ∉ settingKeys) (v : Value) :
    Setting.decode (key, v) = .ok .unknown := by
  unfold Setting.decode
  split
  all_goals first
    | rfl
    | rename_i hEntry
      cases hEntry
      exact absurd h (by decide)

theorem selects_preset :
    Selects Setting.decode Setting.key? "preset" preset .preset Setting.preset? where
  reads _ := rfl
  picks _ := rfl
  belongs f _ h := by cases f <;> first | rfl | cases h

theorem selects_tool :
    Selects Setting.decode Setting.key? "tool" text .tool Setting.tool? where
  reads _ := rfl
  picks _ := rfl
  belongs f _ h := by cases f <;> first | rfl | cases h

theorem selects_toolchain :
    Selects Setting.decode Setting.key? "toolchain" text .toolchain Setting.toolchain? where
  reads _ := rfl
  picks _ := rfl
  belongs f _ h := by cases f <;> first | rfl | cases h

theorem selects_verbose :
    Selects Setting.decode Setting.key? "verbose" boolean .verbose Setting.verbose? where
  reads _ := rfl
  picks _ := rfl
  belongs f _ h := by cases f <;> first | rfl | cases h

theorem selects_actions :
    Selects Setting.decode Setting.key? "actions" policies .actions Setting.actions? where
  reads _ := rfl
  picks _ := rfl
  belongs f _ h := by cases f <;> first | rfl | cases h

/-- What the entries of a document have under the keys of the settings. -/
@[mk_iff]
structure ConfigIs (entries : Entries) (c : Config) : Prop where
  preset : Found Schema.preset entries "preset" c.preset
  tool : Found text entries "tool" c.tool
  toolchain : Found text entries "toolchain" c.toolchain
  verbose : ∃ verbose, Found boolean entries "verbose" verbose ∧ verbose.getD false = c.verbose
  actions : ∃ actions, Found policies entries "actions" actions ∧ actions.getD .empty = c.actions
  source : c.source = none

theorem config_eq_ok {entries : Entries} {c : Config} (hKeys : (entries.map (·.1)).Nodup) :
    config entries = .ok c ↔ ConfigIs entries c := by
  have hKeep := Setting.keepsKeys
  rw [config, bind_eq_ok_iff]
  constructor
  · rintro ⟨settings, hSettings, h⟩
    cases h
    exact {
      preset := selects_preset.found hKeep hSettings
      tool := selects_tool.found hKeep hSettings
      toolchain := selects_toolchain.found hKeep hSettings
      verbose := ⟨_, selects_verbose.found hKeep hSettings, rfl⟩
      actions := ⟨_, selects_actions.found hKeep hSettings, rfl⟩
      source := rfl }
  · obtain ⟨preset, tool, toolchain, verbose, actions, source⟩ := c
    rintro ⟨hPreset, hTool, hToolchain, ⟨isVerbose, hVerbose, hv⟩, ⟨table, hActions, ha⟩, hSource⟩
    have hAll : ∀ e ∈ entries, ∃ f, Setting.decode e = .ok f := by
      rintro ⟨key, v⟩ hMem
      by_cases hKey : key ∈ settingKeys
      · simp only [settingKeys, List.mem_cons, List.not_mem_nil, or_false] at hKey
        rcases hKey with rfl | rfl | rfl | rfl | rfl
        · exact selects_preset.exists_decode hKeys hPreset hMem
        · exact selects_tool.exists_decode hKeys hTool hMem
        · exact selects_toolchain.exists_decode hKeys hToolchain hMem
        · exact selects_verbose.exists_decode hKeys hVerbose hMem
        · exact selects_actions.exists_decode hKeys hActions hMem
      · exact ⟨_, Setting.decode_unknown hKey v⟩
    obtain ⟨settings, hSettings⟩ := exists_mapM_eq_ok hAll
    refine ⟨settings, hSettings, ?_⟩
    rw [(selects_preset.found hKeep hSettings).unique hPreset,
      (selects_tool.found hKeep hSettings).unique hTool,
      (selects_toolchain.found hKeep hSettings).unique hToolchain,
      (selects_verbose.found hKeep hSettings).unique hVerbose,
      (selects_actions.found hKeep hSettings).unique hActions, hv, ha]
    cases hSource
    rfl

end Schema

end BuildDispatch
