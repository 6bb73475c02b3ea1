import BuildDispatch.Proofs.Config.SameReading

/-! The order of keys and keys that mean nothing.  Both may differ between two documents, at every
level at once, and each is decoded to what the other is decoded to. -/

namespace BuildDispatch

open Toml

namespace Schema

/-- Two values are equal up to the order of keys in their tables and up to keys that mean nothing in
the structure they stand in, under which anything may be. -/
inductive Alike : Role → Value → Value → Prop
  | same {r : Role} {v : Value} : Alike r v v
  | array {r : Role} {form form' : ArrayForm} {items items' : List Value}
    (hLength : items.length = items'.length)
    (hItems : ∀ (i : Nat) v v', items[i]? = some v → items'[i]? = some v' →
      Alike (r.item i) v v') : Alike r (.array form items) (.array form' items')
  | table {r : Role} {entries entries' : Entries}
    (hKeys : ((entries.map (·.1)).filter r.counts).Perm ((entries'.map (·.1)).filter r.counts))
    (hValues : ∀ key v v', r.counts key = true → (key, v) ∈ entries → (key, v') ∈ entries' →
      Alike (r.under key) v v') : Alike r (.table entries) (.table entries')

theorem Alike.sameReading {r : Role} {v v' : Value} (h : Alike r v v') (hv : v.HasDistinctKeys)
    (hv' : v'.HasDistinctKeys) : r.SameReading v v' := by
  induction h with
  | same => exact .refl _ _
  | array hLength hItems ih =>
    refine sameReading_array _ _ hLength fun i w w' hw hw' => ?_
    have hItem := hv.items w (List.mem_of_getElem? hw)
    have hItem' := hv'.items w' (List.mem_of_getElem? hw')
    exact ih i w w' hw hw' hItem hItem'
  | table hKeys hValues ih =>
    refine sameReading_table hv.keys hv'.keys hKeys fun key w w' hCounts hw hw' => ?_
    exact ih key w w' hCounts hw hw' (hv.values _ hw) (hv'.values _ hw')

/-- Tables are alike if one has the entries of the other, but for keys that mean nothing. -/
theorem Alike.of_entries {r : Role} {entries entries' : Entries}
    (hDistinct : (entries'.map (·.1)).Nodup)
    (hKeys : ((entries.map (·.1)).filter r.counts).Perm ((entries'.map (·.1)).filter r.counts))
    (hEntries : ∀ e ∈ entries, r.counts e.1 = true → e ∈ entries') :
    Alike r (.table entries) (.table entries') := by
  refine .table hKeys fun key v v' hCounts hv hv' => ?_
  have hSame := eq_of_mem_of_mem hDistinct (hEntries _ hv hCounts) hv'
  exact hSame ▸ .same

theorem sameReading_insert {r : Role} {key : String} {v : Value} {before after : Entries}
    (hDistinct : ((before ++ (key, v) :: after).map (·.1)).Nodup) (hKey : r.counts key = false) :
    r.SameReading (.table (before ++ (key, v) :: after)) (.table (before ++ after)) := by
  have hFewer : (before ++ after).Sublist (before ++ (key, v) :: after) :=
    (List.sublist_cons_self _ _).append_left before
  refine sameReading_table hDistinct (hDistinct.sublist (hFewer.map _)) ?_ ?_
  · simp [hKey]
  · intro name w w' hCounts hw hw'
    have hSame := eq_of_mem_of_mem hDistinct hw (hFewer.subset hw')
    exact hSame ▸ .refl _ w

/-- Every action of a document is one of its configuration, whatever its name. -/
theorem get?_actions_of_mem {entries actions : Entries} {c : Config}
    (hDistinct : (Value.table entries).HasDistinctKeys) (h : config entries = .ok c)
    (hActions : ("actions", .table actions) ∈ entries) {name : String} {v : Value}
    (hMem : (name, v) ∈ actions) : ∃ p, policy v = .ok p ∧ c.actions.get? name = some p := by
  obtain ⟨t, hFound, hTable⟩ := ((config_eq_ok hDistinct.keys).mp h).actions
  obtain ⟨table, rfl, hPolicies⟩ := hFound.exists_read hDistinct.keys hActions
  have hNames := (hDistinct.values _ hActions).keys
  obtain ⟨p, hGet, hPolicy⟩ := ((policies_eq_ok hNames).mp hPolicies name).exists_read hNames hMem
  exact ⟨p, hPolicy, hTable ▸ hGet⟩

end Schema

namespace Config

open Schema

/-- The order of keys and keys that mean nothing change no configuration. -/
structure ReadsAlike : Prop where
  /-- Both documents are accepted with equal configurations, or both are refused. -/
  documents : ∀ text text' entries entries', parse? text = some entries →
    parse? text' = some entries' → Alike .config (.table entries) (.table entries') →
      ∀ c, parse text = .ok c ↔ parse text' = .ok c
  policies : ∀ v v' : Value, v.HasDistinctKeys → v'.HasDistinctKeys → Alike .policy v v' →
    ∀ p, policy v = .ok p ↔ policy v' = .ok p
  overrides : ∀ v v' : Value, v.HasDistinctKeys → v'.HasDistinctKeys → Alike .override v v' →
    ∀ o, override v = .ok o ↔ override v' = .ok o
  /-- A key that means nothing in a policy neither hides nor alters what stands beside it. -/
  unknownKey : ∀ (before : Entries) key v after,
    ((before ++ (key, v) :: after).map (·.1)).Nodup → key ∉ policyKeys →
      ∀ p, policy (.table (before ++ (key, v) :: after)) = .ok p ↔
        policy (.table (before ++ after)) = .ok p
  /-- No key of the actions is such a key. -/
  actions : ∀ text entries actions c, parse? text = some entries →
    ("actions", .table actions) ∈ entries → parse text = .ok c → ∀ name v, (name, v) ∈ actions →
      ∃ p, policy v = .ok p ∧ c.actions.get? name = some p

theorem parse_alike : ReadsAlike where
  documents text text' entries entries' hText hText' hAlike c := by
    have hDistinct := hasDistinctKeys_of_parse? hText
    have hDistinct' := hasDistinctKeys_of_parse? hText'
    exact (hAlike.sameReading hDistinct hDistinct').parse_iff hText hText' c
  policies _ _ hv hv' hAlike := hAlike.sameReading hv hv'
  overrides _ _ hv hv' hAlike := hAlike.sameReading hv hv'
  unknownKey before key v after hDistinct hKey := by
    have hUnknown : Role.policy.counts key = false := by simpa [Role.counts, Role.keys?] using hKey
    exact sameReading_insert hDistinct hUnknown
  actions text entries actions c hText hActions hParse name v hMem := by
    obtain ⟨entries', hText', hConfig, -⟩ := parse_eq_ok.mp hParse
    cases hText.symm.trans hText'
    exact get?_actions_of_mem (hasDistinctKeys_of_parse? hText) hConfig hActions hMem

/-- A document with a policy. -/
def tidyText : String := "[actions.test]\nargs = [\"-q\"]\nenv = []\n"

/-- The same document in another order and with two keys that mean nothing. -/
def strewnText : String := "note = 1\n[actions.test]\nenv = []\nnote = 2\nargs = [\"-q\"]\n"

def tidyPolicy : Entries :=
  [("args", .array .brackets [.string "-q"]), ("env", .array .brackets [])]

def strewnPolicy : Entries :=
  [("env", .array .brackets []), ("note", .integer 2), ("args", .array .brackets [.string "-q"])]

def tidyOverride : Entries := [("name", .string "A"), ("value", .string "1")]

def strewnOverride : Entries :=
  [("env", .boolean true), ("value", .string "1"), ("name", .string "A")]

theorem alike_strewnPolicy : Alike .policy (.table tidyPolicy) (.table strewnPolicy) :=
  .of_entries (by decide) (by decide) (by simp [tidyPolicy, strewnPolicy])

theorem alike_strewnOverride : Alike .override (.table tidyOverride) (.table strewnOverride) :=
  .of_entries (by decide) (by decide) (by simp [tidyOverride, strewnOverride])

theorem alike_strewn : Alike .config (.table [("actions", .table [("test", .table tidyPolicy)])])
    (.table [("note", .integer 1), ("actions", .table [("test", .table strewnPolicy)])]) := by
  refine .table (by decide) fun key v v' _ hv hv' => ?_
  cases List.mem_singleton.mp hv
  have hActions : v' = .table [("test", .table strewnPolicy)] := by simpa using hv'
  subst hActions
  refine .table (by decide) fun name w w' _ hw hw' => ?_
  cases List.mem_singleton.mp hw
  cases List.mem_singleton.mp hw'
  exact alike_strewnPolicy

theorem hasDistinctKeys_scalars {entries : Entries} (hKeys : (entries.map (·.1)).Nodup)
    (hValues : ∀ e ∈ entries, e.2.isScalar = true) : (Value.table entries).HasDistinctKeys :=
  .table hKeys fun e he => .scalar (hValues e he)

/-- The two documents are accepted, with equal configurations. -/
theorem parse_alike_strewn : (parse tidyText).toOption.isSome = true ∧
    (∀ c, parse tidyText = .ok c ↔ parse strewnText = .ok c) ∧
    (∀ p, policy (.table tidyPolicy) = .ok p ↔ policy (.table strewnPolicy) = .ok p) ∧
    (∀ o, override (.table tidyOverride) = .ok o ↔ override (.table strewnOverride) = .ok o) ∧
    (∀ p, policy (.table strewnPolicy) = .ok p ↔ policy (.table tidyPolicy.reverse) = .ok p) ∧
    ∀ c, parse strewnText = .ok c →
      ∃ p, policy (.table strewnPolicy) = .ok p ∧ c.actions.get? "test" = some p := by
  have hTidy : parse? tidyText = some [("actions", .table [("test", .table tidyPolicy)])] := by
    decide +kernel
  have hStrewn : parse? strewnText =
      some [("note", .integer 1), ("actions", .table [("test", .table strewnPolicy)])] := by
    decide +kernel
  have hTidyDistinct : (Value.table tidyPolicy).HasDistinctKeys :=
    ((hasDistinctKeys_of_parse? hTidy).values _ (.head _)).values _ (.head _)
  have hStrewnDistinct : (Value.table strewnPolicy).HasDistinctKeys :=
    ((hasDistinctKeys_of_parse? hStrewn).values _ (.tail _ (.head _))).values _ (.head _)
  refine ⟨by decide +kernel, ?_, ?_, ?_, ?_, ?_⟩
  · exact parse_alike.documents _ _ _ _ hTidy hStrewn alike_strewn
  · exact parse_alike.policies _ _ hTidyDistinct hStrewnDistinct alike_strewnPolicy
  · have hTidyOverride : (Value.table tidyOverride).HasDistinctKeys :=
      hasDistinctKeys_scalars (by decide) (by decide)
    have hStrewnOverride : (Value.table strewnOverride).HasDistinctKeys :=
      hasDistinctKeys_scalars (by decide) (by decide)
    exact parse_alike.overrides _ _ hTidyOverride hStrewnOverride alike_strewnOverride
  · exact parse_alike.unknownKey [("env", .array .brackets [])] "note" (.integer 2) _ (by decide)
      (by decide)
  · intro c hc
    exact parse_alike.actions _ _ _ c hStrewn (.tail _ (.head _)) hc "test" _ (.head _)

end Config

end BuildDispatch
