import BuildDispatch.Proofs.Config.SameReading

/-! Structures by position.  A policy or an override may be an array, in which its fields stand in
order and from the end of which fields may be left off.  It is decoded to what the table with the
same fields is decoded to, and that holds for documents in which any of these tables were turned
into arrays. -/

namespace BuildDispatch

open Toml

namespace Schema

/-- Tables of policies and of overrides were turned into arrays: none, some or all of them, where
their keys are the first fields of the structure.  In the other tables keys may have moved, as they
do when a table with a header of its own becomes an array. -/
inductive Respelled : Role → Value → Value → Prop
  | same {r : Role} {v : Value} : Respelled r v v
  | array {r : Role} {form form' : ArrayForm} {items items' : List Value}
    (hLength : items.length = items'.length)
    (hItems : ∀ (i : Nat) v v', items[i]? = some v → items'[i]? = some v' →
      Respelled (r.item i) v v') : Respelled r (.array form items) (.array form' items')
  | table {r : Role} {entries entries' : Entries}
    (hKeys : (entries.map (·.1)).Perm (entries'.map (·.1)))
    (hValues : ∀ key v v', (key, v) ∈ entries → (key, v') ∈ entries' →
      Respelled (r.under key) v v') : Respelled r (.table entries) (.table entries')
  | positional {r : Role} {keys : List String} {entries : Entries} {form : ArrayForm}
    {items : List Value} (hRole : r.positions? = some keys)
    (hKeys : (entries.map (·.1)).Perm (keys.take items.length))
    (hLength : items.length ≤ keys.length)
    (hValues : ∀ key v v', (key, v) ∈ entries → (key, v') ∈ keys.zip items →
      Respelled (r.under key) v v') : Respelled r (.table entries) (.array form items)

theorem Respelled.sameReading {r : Role} {v v' : Value} (h : Respelled r v v')
    (hv : v.HasDistinctKeys) (hv' : v'.HasDistinctKeys) : r.SameReading v v' := by
  induction h with
  | same => exact .refl _ _
  | array hLength hItems ih =>
    refine sameReading_array _ _ hLength fun i w w' hw hw' => ?_
    have hItem := hv.items w (List.mem_of_getElem? hw)
    have hItem' := hv'.items w' (List.mem_of_getElem? hw')
    exact ih i w w' hw hw' hItem hItem'
  | table hKeys hValues ih =>
    refine sameReading_table hv.keys hv'.keys (hKeys.filter _) fun key w w' _ hw hw' => ?_
    exact ih key w w' hw hw' (hv.values _ hw) (hv'.values _ hw')
  | @positional r keys entries form items hRole hKeys hLength hValues ih =>
    rw [← keys_zip] at hKeys
    have hAgree : Agree r entries (keys.zip items) := by
      refine Agree.of_perm (hKeys.filter _) fun key w w' _ hw hw' => ?_
      exact ih key w w' hw hw' (hv.values _ hw) (hv'.items _ (List.of_mem_zip hw').2)
    exact hAgree.sameReading hRole rfl rfl hv.keys
      (nodup_keys_zip (Role.nodup_of_positions? hRole) items)

/-- A table and the array of its values, in the order of the fields, are decoded alike. -/
theorem sameReading_positional {r : Role} {keys : List String} {entries : Entries}
    {items : List Value} (form : ArrayForm) (hRole : r.positions? = some keys)
    (hEntries : entries.Perm (keys.zip items)) :
    r.SameReading (.table entries) (.array form items) := by
  have hNodup := nodup_keys_zip (Role.nodup_of_positions? hRole) items
  have hKeys := hEntries.map (·.1)
  have hAgree : Agree r entries (keys.zip items) := by
    refine Agree.of_perm (hKeys.filter _) fun key v v' _ hv hv' => ?_
    have hSame := eq_of_mem_of_mem hNodup (hEntries.subset hv) hv'
    exact hSame ▸ .refl _ v
  exact hAgree.sameReading hRole rfl rfl (hKeys.nodup_iff.mpr hNodup) hNodup

theorem override_short {form : ArrayForm} {items : List Value} (h : items.length < 2) :
    ∃ e, override (.array form items) = .error e := by
  refine exists_error_of_ne_ok fun o ho => ?_
  have hIs := overrideOfItems_eq_ok.mp ho
  match items with
  | [] => cases hIs.name
  | [_] => cases hIs.value
  | _ :: _ :: _ => exact absurd h (by simp)

theorem override_lacking {entries : Entries} {key : String} (hKey : key = "name" ∨ key = "value")
    (h : key ∉ entries.map (·.1)) : ∃ e, override (.table entries) = .error e := by
  refine exists_error_of_ne_ok fun o ho => ?_
  have hIs := overrideIs_of_overrideOfEntries ho
  have hNone : SortedMap.lookup key entries = none := by
    rwa [← SortedMap.isSome_lookup, Bool.not_eq_true, Option.isSome_eq_false_iff,
      Option.isNone_iff_eq_none] at h
  rcases hKey with rfl | rfl
  · have hName := hIs.name
    rw [Found, hNone] at hName
    cases hName
  · have hValue := hIs.value
    rw [Found, hNone] at hValue
    cases hValue

theorem mode_of_override_pair {form : ArrayForm} {n v : Value} {o : EnvOverride}
    (h : override (.array form [n, v]) = .ok o) : o.mode = .append := by
  have hIs : OverrideIs (overrideKeys.zip [n, v]) o := overrideOfItems_eq_ok.mp h
  obtain ⟨m, hMode, hm⟩ := hIs.mode
  have hNone : m = none := hMode.unique rfl
  rw [← hm, hNone]
  rfl

end Schema

namespace Config

open Schema

/-- The two spellings of a structure agree, be the arrays written in one form or in another. -/
structure SpellingsAgree (form : ArrayForm) : Prop where
  /-- The keys of a table may stand in any order. -/
  policyPair : ∀ e a p, ∀ entries : Entries, entries.Perm [("env", e), ("args", a)] →
    (policy (.table entries) = .ok p ↔ policy (.array form [e, a]) = .ok p)
  policyEnv : ∀ e p, policy (.table [("env", e)]) = .ok p ↔ policy (.array form [e]) = .ok p
  policyEmpty : ∀ p, policy (.table []) = .ok p ↔ policy (.array form []) = .ok p
  overrideTriple : ∀ n v m o, ∀ entries : Entries,
    entries.Perm [("name", n), ("value", v), ("mode", m)] →
      (override (.table entries) = .ok o ↔ override (.array form [n, v, m]) = .ok o)
  overridePair : ∀ n v o, ∀ entries : Entries, entries.Perm [("name", n), ("value", v)] →
    (override (.table entries) = .ok o ↔ override (.array form [n, v]) = .ok o)
  appends : ∀ n v o, override (.array form [n, v]) = .ok o → o.mode = .append
  /-- An array too short for a name and a value is refused, as a table without one of them is. -/
  short : ∀ items : List Value, items.length < 2 → ∃ e, override (.array form items) = .error e
  lacking : ∀ entries : Entries,
    ("name" ∉ entries.map (·.1) ∨ "value" ∉ entries.map (·.1)) →
      ∃ e, override (.table entries) = .error e
  /-- A document stays what it was, accepted or refused, when any of its policies and overrides are
  turned into arrays. -/
  documents : ∀ text text' entries entries', parse? text = some entries →
    parse? text' = some entries' → Respelled .config (.table entries) (.table entries') →
      ∀ c, parse text = .ok c ↔ parse text' = .ok c

theorem parse_respelled (form : ArrayForm) : SpellingsAgree form where
  policyPair e a p entries hEntries := by
    have hSame : Role.policy.SameReading (.table entries) (.array form [e, a]) :=
      sameReading_positional form rfl hEntries
    exact hSame p
  policyEnv e := by
    have hSame : Role.policy.SameReading (.table [("env", e)]) (.array form [e]) :=
      sameReading_positional form rfl (.refl _)
    exact hSame
  policyEmpty := by
    have hSame : Role.policy.SameReading (.table []) (.array form []) :=
      sameReading_positional form rfl (.refl _)
    exact hSame
  overrideTriple n v m o entries hEntries := by
    have hSame : Role.override.SameReading (.table entries) (.array form [n, v, m]) :=
      sameReading_positional form rfl hEntries
    exact hSame o
  overridePair n v o entries hEntries := by
    have hSame : Role.override.SameReading (.table entries) (.array form [n, v]) :=
      sameReading_positional form rfl hEntries
    exact hSame o
  appends _ _ _ := mode_of_override_pair
  short _ := override_short
  lacking := by
    rintro entries (hName | hValue)
    · exact override_lacking (.inl rfl) hName
    · exact override_lacking (.inr rfl) hValue
  documents text text' entries entries' hText hText' hRespelled c := by
    have hDistinct := hasDistinctKeys_of_parse? hText
    have hDistinct' := hasDistinctKeys_of_parse? hText'
    exact (hRespelled.sameReading hDistinct hDistinct').parse_iff hText hText' c

/-- A document with a policy and an override in it. -/
def namedText : String :=
  "[actions.test]\nargs = [\"-q\"]\n[[actions.test.env]]\nname = \"A\"\nvalue = \"1\"\n"

/-- The same document, the policy and the override being arrays. -/
def positionalText : String := "[actions]\ntest = [[[\"A\", \"1\"]], [\"-q\"]]\n"

def namedOverride : Entries := [("name", .string "A"), ("value", .string "1")]

def positionalOverride : List Value := [.string "A", .string "1"]

def namedPolicy : Entries :=
  [("args", .array .brackets [.string "-q"]), ("env", .array .headers [.table namedOverride])]

def positionalPolicy : List Value :=
  [.array .brackets [.array .brackets positionalOverride], .array .brackets [.string "-q"]]

theorem respelled_positionalOverride :
    Respelled .override (.table namedOverride) (.array .brackets positionalOverride) := by
  refine .positional rfl (by decide) (by decide) fun key v v' hv hv' => ?_
  have hSame : v = v' := by
    simp [namedOverride] at hv
    rcases hv with ⟨rfl, rfl⟩ | ⟨rfl, rfl⟩
    · simpa [overrideKeys, positionalOverride, eq_comm] using hv'
    · simpa [overrideKeys, positionalOverride, eq_comm] using hv'
  exact hSame ▸ .same

theorem respelled_positionalPolicy :
    Respelled .policy (.table namedPolicy) (.array .brackets positionalPolicy) := by
  refine .positional rfl (by decide) (by decide) fun key v v' hv hv' => ?_
  simp [namedPolicy] at hv
  rcases hv with ⟨rfl, rfl⟩ | ⟨rfl, rfl⟩
  · have hArgs : v' = .array .brackets [.string "-q"] := by
      simpa [policyKeys, positionalPolicy] using hv'
    exact hArgs ▸ .same
  · have hEnv : v' = .array .brackets [.array .brackets positionalOverride] := by
      simpa [policyKeys, positionalPolicy] using hv'
    subst hEnv
    refine .array rfl fun i w w' hw hw' => ?_
    cases i with
    | zero =>
      cases hw
      cases hw'
      exact respelled_positionalOverride
    | succ i => cases hw

theorem respelled_positionalText :
    Respelled .config (.table [("actions", .table [("test", .table namedPolicy)])])
      (.table [("actions", .table [("test", .array .brackets positionalPolicy)])]) := by
  refine .table (.refl _) fun key v v' hv hv' => ?_
  cases List.mem_singleton.mp hv
  cases List.mem_singleton.mp hv'
  refine .table (.refl _) fun name w w' hw hw' => ?_
  cases List.mem_singleton.mp hw
  cases List.mem_singleton.mp hw'
  exact respelled_positionalPolicy

/-- The two documents are accepted, with equal configurations. -/
theorem parse_respelled_positional : (parse namedText).toOption.isSome = true ∧
    (∀ c, parse namedText = .ok c ↔ parse positionalText = .ok c) ∧
    (∀ e a p, policy (.table [("args", a), ("env", e)]) = .ok p ↔
      policy (.array .brackets [e, a]) = .ok p) ∧
    (∀ n v m o, override (.table [("mode", m), ("value", v), ("name", n)]) = .ok o ↔
      override (.array .brackets [n, v, m]) = .ok o) ∧
    (∀ o, override (.table namedOverride.reverse) = .ok o ↔
      override (.array .brackets positionalOverride) = .ok o) ∧
    (∃ e, override (.array .brackets [.string "A"]) = .error e) ∧
    ∃ e, override (.table [("name", .string "A")]) = .error e := by
  have hAgree : SpellingsAgree .brackets := parse_respelled .brackets
  have hNamed : parse? namedText = some [("actions", .table [("test", .table namedPolicy)])] := by
    decide +kernel
  have hPositional : parse? positionalText =
      some [("actions", .table [("test", .array .brackets positionalPolicy)])] := by
    decide +kernel
  refine ⟨by decide +kernel, ?_, ?_, ?_, ?_, ?_, ?_⟩
  · exact hAgree.documents _ _ _ _ hNamed hPositional respelled_positionalText
  · exact fun e a p => hAgree.policyPair e a p _ (.swap _ _ _)
  · exact fun n v m o => hAgree.overrideTriple n v m o _ (List.reverse_perm [_, _, _])
  · exact fun o => hAgree.overridePair _ _ o _ (List.reverse_perm [_, _])
  · exact hAgree.short [.string "A"] (by decide)
  · exact hAgree.lacking [("name", .string "A")] (.inr (by decide))

end Config

end BuildDispatch
