import BuildDispatch.Proofs.Config.Decoding
import BuildDispatch.Proofs.Config.Parse
import Mathlib.Data.Option.Basic

/-! When two values are decoded alike.  What a value is decoded by hangs on where it stands, its
`Role`.  Two arrays are decoded alike if their items are, and two tables if what they have under the
keys that count is; a table and an array that gives the same fields by position are, too.  Results
are compared only where there are any: of two values that are refused, each has its own fault. -/

namespace BuildDispatch

open Toml

namespace Schema

open SortedMap (lookup)

/-! ### Roles -/

/-- What a value is decoded as; `plain` is whatever is no structure and has none inside. -/
inductive Role where
  | config
  | actions
  | policy
  | overrides
  | override
  | plain

namespace Role

/-- The keys that mean something in a table: in that of a structure the names of its fields, in any
other table all. -/
def keys? : Role → Option (List String)
  | .config => some settingKeys
  | .policy => some policyKeys
  | .override => some overrideKeys
  | .actions | .overrides | .plain => none

/-- Whether a key means something. -/
def counts (r : Role) (key : String) : Bool := r.keys?.elim true fun keys => keys.contains key

/-- The role of a value under a key. -/
def under : Role → String → Role
  | .config, "actions" => .actions
  | .actions, _ => .policy
  | .policy, "env" => .overrides
  | _, _ => .plain

/-- The role of an item of an array. -/
def item : Role → Nat → Role
  | .policy, 0 => .overrides
  | .overrides, _ => .override
  | _, _ => .plain

/-- The fields of a structure that may be an array, in the order of the items. -/
def positions? : Role → Option (List String)
  | .policy => some policyKeys
  | .override => some overrideKeys
  | _ => none

section Positions

variable {r : Role} {keys : List String}

theorem keys?_of_positions? (h : r.positions? = some keys) : r.keys? = some keys := by
  cases r <;> cases h <;> rfl

theorem nodup_of_positions? (h : r.positions? = some keys) : keys.Nodup := by
  cases r <;> cases h <;> decide

/-- An item has the role that it has under the name of its field. -/
theorem item_of_positions? (h : r.positions? = some keys) {i : Nat} {key : String}
    (hKey : keys[i]? = some key) : r.item i = r.under key := by
  cases r with
  | policy =>
    cases h
    match i with
    | 0 | 1 =>
      cases hKey
      rfl
    | _ + 2 => cases hKey
  | override =>
    cases h
    rfl
  | _ => cases h

end Positions

end Role

/-- A decoder gives the same for two values, or refuses both. -/
def SameResult {α : Type} (read : Value → Decoded α) (v v' : Value) : Prop :=
  ∀ a, read v = .ok a ↔ read v' = .ok a

/-- All decoders of values without structure give the same. -/
structure SamePlain (v v' : Value) : Prop where
  text : SameResult Schema.text v v'
  boolean : SameResult Schema.boolean v v'
  words : SameResult (sequence Schema.text) v v'
  payload : SameResult noPayload v v'
  variant : ∀ {α : Type} (variants : List (String × α)), SameResult (Schema.variant variants) v v'

/-- Two values are decoded alike in a role. -/
def Role.SameReading : Role → Value → Value → Prop
  | .config, v, v' => ∀ entries entries', v = .table entries → v' = .table entries' →
      ∀ c, Schema.config entries = .ok c ↔ Schema.config entries' = .ok c
  | .actions, v, v' => SameResult policies v v'
  | .policy, v, v' => SameResult Schema.policy v v'
  | .overrides, v, v' => SameResult (sequence Schema.override) v v'
  | .override, v, v' => SameResult Schema.override v v'
  | .plain, v, v' => SamePlain v v'

theorem SameResult.refl {α : Type} (read : Value → Decoded α) (v : Value) : SameResult read v v :=
  fun _ => Iff.rfl

theorem SameResult.of_refused {α : Type} {read : Value → Decoded α} {v v' : Value}
    {e e' : SchemaError} (h : read v = .error e) (h' : read v' = .error e') :
    SameResult read v v' := by
  intro a
  rw [h, h']
  exact iff_of_false nofun nofun

theorem Role.SameReading.refl (r : Role) (v : Value) : r.SameReading v v := by
  cases r with
  | config =>
    intro entries entries' h h'
    cases h.symm.trans h'
    exact fun _ => Iff.rfl
  | plain =>
    exact ⟨.refl _ v, .refl _ v, .refl _ v, .refl _ v, fun _ => .refl _ v⟩
  | _ => exact SameResult.refl _ v

/-! ### Entries -/

section Entries

variable {entries entries' : Entries}

/-- Two lists of entries have the same keys that count, with values that are decoded alike. -/
def Agree (r : Role) (entries entries' : Entries) : Prop :=
  ∀ key, r.counts key = true →
    Option.Rel (r.under key).SameReading (lookup key entries) (lookup key entries')

theorem Agree.of_perm {r : Role}
    (hKeys : ((entries.map (·.1)).filter r.counts).Perm ((entries'.map (·.1)).filter r.counts))
    (hValues : ∀ key v v', r.counts key = true → (key, v) ∈ entries → (key, v') ∈ entries' →
      (r.under key).SameReading v v') : Agree r entries entries' := by
  intro key hCounts
  have hMem : key ∈ entries.map (·.1) ↔ key ∈ entries'.map (·.1) := by
    simpa [hCounts] using hKeys.mem_iff (a := key)
  rw [← SortedMap.isSome_lookup, ← SortedMap.isSome_lookup] at hMem
  cases hFound : lookup key entries with
  | none =>
    cases hFound' : lookup key entries' with
    | none => exact .none
    | some v' => simp [hFound, hFound'] at hMem
  | some v =>
    cases hFound' : lookup key entries' with
    | none => simp [hFound, hFound'] at hMem
    | some v' =>
      have hIn : (key, v) ∈ entries := SortedMap.mem_of_lookup hFound
      have hIn' : (key, v') ∈ entries' := SortedMap.mem_of_lookup hFound'
      exact .some (hValues key v v' hCounts hIn hIn')

theorem Agree.found {r : Role} {α : Type} (h : Agree r entries entries') (key : String)
    (read : Value → Decoded α) (hCounts : r.counts key = true)
    (hRead : ∀ v v', (r.under key).SameReading v v' → SameResult read v v') (x : Option α) :
    Found read entries key x ↔ Found read entries' key x := by
  have hValues := h key hCounts
  unfold Found
  generalize lookup key entries = found, lookup key entries' = found' at hValues ⊢
  cases hValues with
  | none => exact Iff.rfl
  | some hSame =>
    cases x with
    | none => exact iff_of_false nofun nofun
    | some a => simpa using hRead _ _ hSame a

theorem Agree.overrideIs (h : Agree .override entries entries') (o : EnvOverride) :
    OverrideIs entries o ↔ OverrideIs entries' o := by
  have hName := h.found "name" text rfl fun _ _ hSame => hSame.text
  have hValue := h.found "value" text rfl fun _ _ hSame => hSame.text
  have hMode := h.found "mode" mode rfl fun _ _ hSame => hSame.variant _
  rw [overrideIs_iff, overrideIs_iff]
  simp only [hName, hValue, hMode]

theorem Agree.policyIs (h : Agree .policy entries entries') (p : ActionPolicy) :
    PolicyIs entries p ↔ PolicyIs entries' p := by
  have hEnv := h.found "env" (sequence override) rfl fun _ _ hSame => hSame
  have hArgs := h.found "args" (sequence text) rfl fun _ _ hSame => hSame.words
  rw [policyIs_iff, policyIs_iff]
  simp only [hEnv, hArgs]

theorem Agree.configIs (h : Agree .config entries entries') (c : Config) :
    ConfigIs entries c ↔ ConfigIs entries' c := by
  have hPreset := h.found "preset" preset rfl fun _ _ hSame => hSame.variant _
  have hTool := h.found "tool" text rfl fun _ _ hSame => hSame.text
  have hToolchain := h.found "toolchain" text rfl fun _ _ hSame => hSame.text
  have hVerbose := h.found "verbose" boolean rfl fun _ _ hSame => hSame.boolean
  have hActions := h.found "actions" policies rfl fun _ _ hSame => hSame
  rw [configIs_iff, configIs_iff]
  simp only [hPreset, hTool, hToolchain, hVerbose, hActions]

end Entries

/-! ### Structures -/

/-- A structure is decoded alike from entries that agree, be they of a table or of an array. -/
theorem Agree.sameReading {r : Role} {keys : List String} {v v' : Value}
    {entries entries' : Entries} (hRole : r.positions? = some keys)
    (h : namedEntries? keys v = some entries) (h' : namedEntries? keys v' = some entries')
    (hKeys : (entries.map (·.1)).Nodup) (hKeys' : (entries'.map (·.1)).Nodup)
    (hAgree : Agree r entries entries') : r.SameReading v v' := by
  cases r with
  | policy =>
    cases hRole
    intro p
    rw [policy_eq_ok h hKeys, policy_eq_ok h' hKeys']
    exact hAgree.policyIs p
  | override =>
    cases hRole
    intro o
    rw [override_eq_ok h hKeys, override_eq_ok h' hKeys']
    exact hAgree.overrideIs o
  | _ => cases hRole

/-! ### Arrays -/

section Arrays

variable {items items' : List Value} (form form' : ArrayForm)

theorem rel_getElem? {R : Value → Value → Prop} {i : Nat} (hLength : items.length = items'.length)
    (h : ∀ v v', items[i]? = some v → items'[i]? = some v' → R v v') :
    Option.Rel R items[i]? items'[i]? := by
  by_cases hi : i < items.length
  · have hi' : i < items'.length := hLength ▸ hi
    rw [List.getElem?_eq_getElem hi, List.getElem?_eq_getElem hi']
    exact .some (h _ _ (List.getElem?_eq_getElem hi) (List.getElem?_eq_getElem hi'))
  · have hi' : ¬ i < items'.length := hLength ▸ hi
    rw [List.getElem?_eq_none (Nat.not_lt.mp hi), List.getElem?_eq_none (Nat.not_lt.mp hi')]
    exact .none

theorem sameResult_sequence {α : Type} {read : Value → Decoded α}
    (hLength : items.length = items'.length)
    (hItems : ∀ (i : Nat) v v', items[i]? = some v → items'[i]? = some v' → SameResult read v v') :
    SameResult (sequence read) (.array form items) (.array form' items') := by
  intro as
  change items.mapM read = .ok as ↔ items'.mapM read = .ok as
  rw [mapM_eq_ok_iff, mapM_eq_ok_iff, List.ext_getElem?_iff, List.ext_getElem?_iff]
  refine forall_congr' fun i => ?_
  rw [List.getElem?_map, List.getElem?_map, List.getElem?_map]
  have hItem := rel_getElem? hLength (hItems i)
  generalize items[i]? = v, items'[i]? = v' at hItem
  cases hItem with
  | none => exact Iff.rfl
  | some hSame =>
    cases as[i]? with
    | none => exact iff_of_false nofun nofun
    | some a => simpa using hSame a

theorem lookup_zip {keys : List String} (hKeys : keys.Nodup) {key : String} {i : Nat}
    (hKey : keys[i]? = some key) (items : List Value) :
    lookup key (keys.zip items) = items[i]? := by
  induction keys generalizing items i with
  | nil => cases hKey
  | cons first keys ih =>
    obtain ⟨hFirst, hRest⟩ := List.nodup_cons.mp hKeys
    cases items with
    | nil => rfl
    | cons v items =>
      cases i with
      | zero =>
        cases hKey
        exact if_pos rfl
      | succ i =>
        have hNe : first ≠ key := fun hSame => hFirst (hSame ▸ List.mem_of_getElem? hKey)
        rw [List.zip_cons_cons, lookup, if_neg hNe]
        exact ih hRest hKey items

/-- The items of an array are the values of the fields that they stand for. -/
theorem agree_zip {r : Role} {keys : List String} (hRole : r.positions? = some keys)
    (hLength : items.length = items'.length)
    (hItems : ∀ (i : Nat) v v', items[i]? = some v → items'[i]? = some v' →
      (r.item i).SameReading v v') :
    Agree r (keys.zip items) (keys.zip items') := by
  have hNodup := Role.nodup_of_positions? hRole
  intro key hCounts
  have hMem : key ∈ keys := by simpa [Role.counts, Role.keys?_of_positions? hRole] using hCounts
  obtain ⟨i, hi⟩ := List.mem_iff_getElem?.mp hMem
  rw [lookup_zip hNodup hi, lookup_zip hNodup hi, ← Role.item_of_positions? hRole hi]
  exact rel_getElem? hLength (hItems i)

theorem sameReading_array {r : Role} (hLength : items.length = items'.length)
    (hItems : ∀ (i : Nat) v v', items[i]? = some v → items'[i]? = some v' →
      (r.item i).SameReading v v') :
    r.SameReading (.array form items) (.array form' items') := by
  have hStructure : ∀ keys, r.positions? = some keys →
      r.SameReading (.array form items) (.array form' items') := by
    intro keys hRole
    have hNodup := Role.nodup_of_positions? hRole
    exact (agree_zip hRole hLength hItems).sameReading hRole rfl rfl (nodup_keys_zip hNodup items)
      (nodup_keys_zip hNodup items')
  cases r with
  | config => exact nofun
  | actions => exact .of_refused rfl rfl
  | policy => exact hStructure _ rfl
  | overrides => exact sameResult_sequence form form' hLength hItems
  | override => exact hStructure _ rfl
  | plain =>
    refine ⟨.of_refused rfl rfl, .of_refused rfl rfl, ?_, ?_, fun _ => .of_refused rfl rfl⟩
    · exact sameResult_sequence form form' hLength fun i v v' hv hv' => (hItems i v v' hv hv').text
    · intro a
      cases items with
      | nil =>
        cases List.length_eq_zero_iff.mp hLength.symm
        exact Iff.rfl
      | cons v items =>
        cases items' with
        | nil => cases hLength
        | cons v' items' => exact SameResult.of_refused rfl rfl a

end Arrays

/-! ### Tables -/

section Tables

variable {entries entries' : Entries}

/-- Tables without structure are decoded alike if their payloads are. -/
theorem samePlain_table (hKeys : (entries.map (·.1)).Perm (entries'.map (·.1)))
    (hValues : ∀ key v v', (key, v) ∈ entries → (key, v') ∈ entries' → SamePlain v v') :
    SamePlain (.table entries) (.table entries') := by
  refine ⟨.of_refused rfl rfl, .of_refused rfl rfl, .of_refused rfl rfl, ?_, fun variants => ?_⟩
  · intro a
    cases entries with
    | nil =>
      cases List.map_eq_nil_iff.mp hKeys.symm.eq_nil
      exact Iff.rfl
    | cons e entries =>
      cases entries' with
      | nil => cases hKeys.eq_nil
      | cons e' entries' => exact SameResult.of_refused rfl rfl a
  · -- Only the key of a table with a single one can name a variant.
    match entries, entries' with
    | [], [] => exact .refl _ _
    | [], _ :: _ => cases hKeys.symm.eq_nil
    | _ :: _, [] => cases hKeys.eq_nil
    | [(key, v)], [(key', v')] =>
      have hKey : key = key' := by simpa using hKeys
      subst hKey
      have hPayload := (hValues key v v' List.mem_cons_self List.mem_cons_self).payload
      intro a
      simp only [Schema.variant, bind_eq_ok_iff, hPayload _]
    | [_], _ :: _ :: _ => cases hKeys.length_eq
    | _ :: _ :: _, [_] => cases hKeys.length_eq
    | _ :: _ :: _, _ :: _ :: _ => exact .of_refused rfl rfl

theorem sameReading_table {r : Role}
    (hDistinct : (entries.map (·.1)).Nodup) (hDistinct' : (entries'.map (·.1)).Nodup)
    (hKeys : ((entries.map (·.1)).filter r.counts).Perm ((entries'.map (·.1)).filter r.counts))
    (hValues : ∀ key v v', r.counts key = true → (key, v) ∈ entries → (key, v') ∈ entries' →
      (r.under key).SameReading v v') : r.SameReading (.table entries) (.table entries') := by
  have hAgree := Agree.of_perm hKeys hValues
  cases r with
  | config =>
    intro es es' h h' c
    cases h
    cases h'
    rw [config_eq_ok hDistinct, config_eq_ok hDistinct']
    exact hAgree.configIs c
  | actions =>
    intro t
    rw [policies_eq_ok hDistinct, policies_eq_ok hDistinct']
    exact forall_congr' fun name => hAgree.found name policy rfl (fun _ _ hSame => hSame) _
  | policy => exact hAgree.sameReading rfl rfl rfl hDistinct hDistinct'
  | overrides => exact .of_refused rfl rfl
  | override => exact hAgree.sameReading rfl rfl rfl hDistinct hDistinct'
  | plain =>
    -- Where there is no structure every key counts.
    have hAll : ∀ keys : List String, keys.filter Role.plain.counts = keys :=
      fun keys => List.filter_eq_self.mpr fun _ _ => rfl
    rw [hAll, hAll] at hKeys
    exact samePlain_table hKeys fun key v v' => hValues key v v' rfl

end Tables

/-! ### Documents -/

/-- Texts whose documents are decoded alike are parsed alike, the rules being about what was
decoded. -/
theorem Role.SameReading.parse_iff {text text' : String} {entries entries' : Entries}
    (hText : parse? text = some entries) (hText' : parse? text' = some entries')
    (h : Role.config.SameReading (.table entries) (.table entries')) (c : Config) :
    Config.parse text = .ok c ↔ Config.parse text' = .ok c := by
  have hDecoded := h entries entries' rfl rfl c
  rw [Config.parse_eq_ok, Config.parse_eq_ok]
  simp only [hText, hText', Option.some.injEq, exists_eq_left', hDecoded]

end Schema

end BuildDispatch
