import BuildDispatch.Proofs.Config.Parse
import BuildDispatch.Proofs.Config.Validity

/-! Which broken rule of a configuration is reported.  Every rule is broken at a place: the tool,
the name of an action, the name or the value of an override.  `Before` orders the places, and the
report is about the first of them at which a rule is broken, wherever it stands in the document. -/

namespace BuildDispatch

inductive OverridePlace where
  | name
  | value

inductive EntryPlace where
  | action
  | override (index : Nat) (place : OverridePlace)

/-- A place in a configuration at which a rule can be broken. -/
inductive Place where
  | tool
  | entry (action : String) (place : EntryPlace)

/-! ### Order -/

/-- The name of an override comes before its value. -/
inductive OverridePlace.Before : OverridePlace → OverridePlace → Prop
  | name : Before .name .value

/-- The name of an action comes before its overrides, and these come in the order of their list. -/
inductive EntryPlace.Before : EntryPlace → EntryPlace → Prop
  | action {i : Nat} {place : OverridePlace} : Before .action (.override i place)
  | earlier {i j : Nat} (h : i < j) {place place' : OverridePlace} :
    Before (.override i place) (.override j place')
  | inside {i : Nat} {place place' : OverridePlace} (h : place.Before place') :
    Before (.override i place) (.override i place')

/-- The tool comes before the actions, and these come in the bytewise order of their names. -/
inductive Place.Before : Place → Place → Prop
  | tool {action : String} {place : EntryPlace} : Before .tool (.entry action place)
  | smaller {a b : String} (h : Bytes.ofText a < Bytes.ofText b) {place place' : EntryPlace} :
    Before (.entry a place) (.entry b place')
  | inside {action : String} {place place' : EntryPlace} (h : place.Before place') :
    Before (.entry action place) (.entry action place')

theorem OverridePlace.Before.asymm {p q : OverridePlace} (h : p.Before q) : ¬ q.Before p := by
  cases h with
  | name =>
    intro h
    cases h

theorem EntryPlace.Before.asymm {p q : EntryPlace} (h : p.Before q) : ¬ q.Before p := by
  intro h'
  cases h with
  | action => cases h'
  | earlier hIndex =>
    cases h' with
    | earlier hIndex' => omega
    | inside => omega
  | inside hPlace =>
    cases h' with
    | earlier hIndex' => omega
    | inside hPlace' => exact hPlace.asymm hPlace'

theorem Place.Before.asymm {p q : Place} (h : p.Before q) : ¬ q.Before p := by
  intro h'
  cases h with
  | tool => cases h'
  | smaller hBytes =>
    cases h' with
    | smaller hBytes' => exact List.lt_irrefl _ (List.lt_trans hBytes hBytes')
    | inside => exact List.lt_irrefl _ hBytes
  | inside hPlace =>
    cases h' with
    | smaller hBytes => exact List.lt_irrefl _ hBytes
    | inside hPlace' => exact hPlace.asymm hPlace'

/-- Of the places at which a rule is broken, `place` is the first, and `v` says what is wrong. -/
def IsFirst {α : Type} (before : α → α → Prop) (breaks : α → Violation → Prop) (place : α)
    (v : Violation) : Prop :=
  breaks place v ∧ ∀ other w, breaks other w → other = place ∨ before place other

/-- What a search for a broken rule should find: the first, and nothing only if all are kept. -/
def Finds {α : Type} (before : α → α → Prop) (breaks : α → Violation → Prop) :
    Option Violation → Prop
  | some v => ∃ place, IsFirst before breaks place v
  | none => ∀ place v, ¬ breaks place v

section Search

variable {α β : Type} {before : α → α → Prop}

/-- What is reported does not hang on how the first place was found. -/
theorem IsFirst.report_eq {breaks : α → Violation → Prop} {place place' : α} {v w : Violation}
    (h : IsFirst before breaks place v) (h' : IsFirst before breaks place' w)
    (hAsymm : ∀ p q, before p q → ¬ before q p)
    (hUnique : ∀ p v w, breaks p v → breaks p w → v = w) : v = w := by
  rcases h.2 place' w h'.1 with rfl | hBefore
  · exact hUnique place' v w h.1 h'.1
  · rcases h'.2 place v h.1 with rfl | hBefore'
    · exact hUnique place v w h.1 h'.1
    · exact absurd hBefore' (hAsymm _ _ hBefore)

variable {breaks : β → α → Violation → Prop} {search : β → Option Violation} {l : List β}

theorem not_breaks_of_findSome? (hFinds : ∀ b, Finds before (breaks b) (search b))
    (h : l.findSome? search = none) : ∀ b ∈ l, ∀ place v, ¬ breaks b place v := by
  intro b hb
  have hNone := hFinds b
  rw [List.findSome?_eq_none_iff.mp h b hb] at hNone
  exact hNone

/-- A search through a list ends at the first element that breaks a rule. -/
theorem exists_isFirst_of_findSome? {v : Violation}
    (hFinds : ∀ b, Finds before (breaks b) (search b)) (h : l.findSome? search = some v) :
    ∃ kept b more place, l = kept ++ b :: more ∧ IsFirst before (breaks b) place v ∧
      ∀ b' ∈ kept, ∀ place' w, ¬ breaks b' place' w := by
  obtain ⟨kept, b, more, hSplit, hFound, hKept⟩ := List.findSome?_eq_some_iff.mp h
  have hFirst := hFinds b
  rw [hFound] at hFirst
  obtain ⟨place, hPlace⟩ := hFirst
  exact ⟨kept, b, more, place, hSplit, hPlace,
    not_breaks_of_findSome? hFinds (List.findSome?_eq_none_iff.mpr hKept)⟩

end Search

/-! ### Broken rules -/

/-- The override `o` of an action breaks a rule. -/
inductive EnvOverride.Breaks (action : String) (o : EnvOverride) : OverridePlace → Violation → Prop
  | name (bad : o.name = "" ∨ '=' ∈ o.name.toList ∨ '\x00' ∈ o.name.toList) :
    Breaks action o .name (.badName action o.name)
  | value (bad : '\x00' ∈ o.value.toList) : Breaks action o .value (.nulInValue action o.name)

/-- The entry of an action breaks a rule. -/
inductive ActionPolicy.Breaks (action : String) (p : ActionPolicy) : EntryPlace → Violation → Prop
  | action (bad : action = "") : Breaks action p .action .emptyAction
  | override {i : Nat} {o : EnvOverride} {place : OverridePlace} {v : Violation}
      (listed : p.env[i]? = some o) (bad : o.Breaks action place v) :
    Breaks action p (.override i place) v

/-- A configuration breaks a rule. -/
inductive Config.Breaks (c : Config) : Place → Violation → Prop
  | tool (bad : c.tool = some "") : Breaks c .tool .emptyTool
  | entry {action : String} {p : ActionPolicy} {place : EntryPlace} {v : Violation}
      (listed : c.actions.get? action = some p) (bad : p.Breaks action place v) :
    Breaks c (.entry action place) v

namespace EnvOverride

variable {action : String} {o : EnvOverride}

theorem Breaks.unique {place : OverridePlace} {v w : Violation} (h : o.Breaks action place v)
    (h' : o.Breaks action place w) : v = w := by
  cases h <;> cases h' <;> rfl

theorem finds_violation? (action : String) (o : EnvOverride) :
    Finds OverridePlace.Before (o.Breaks action) (o.violation? action) := by
  unfold violation?
  split
  · rename_i hBad
    refine ⟨.name, .name (isBadName_iff.mp hBad), fun other w h => ?_⟩
    cases h with
    | name => exact .inl rfl
    | value => exact .inr .name
  · rename_i hGood
    split
    · rename_i hNul
      refine ⟨.value, .value (List.contains_iff_mem.mp hNul), fun other w h => ?_⟩
      cases h with
      | name bad => exact absurd (isBadName_iff.mpr bad) hGood
      | value => exact .inl rfl
    · rename_i hNoNul
      intro place v h
      cases h with
      | name bad => exact hGood (isBadName_iff.mpr bad)
      | value bad => exact hNoNul (List.contains_iff_mem.mpr bad)

end EnvOverride

namespace ActionPolicy

theorem Breaks.unique {action : String} {p : ActionPolicy} {place : EntryPlace} {v w : Violation}
    (h : p.Breaks action place v) (h' : p.Breaks action place w) : v = w := by
  cases h with
  | action =>
    cases h'
    rfl
  | override listed bad =>
    cases h' with
    | override listed' bad' =>
      cases listed.symm.trans listed'
      exact bad.unique bad'

theorem finds_entryViolation? (action : String) (p : ActionPolicy) :
    Finds EntryPlace.Before (p.Breaks action) (Config.entryViolation? (action, p)) := by
  unfold Config.entryViolation?
  split
  · rename_i hEmpty
    refine ⟨.action, .action (by simpa using hEmpty), fun other w h => ?_⟩
    cases h with
    | action => exact .inl rfl
    | override => exact .inr .action
  · rename_i hNamed
    have hAction : ¬ action = "" := by simpa using hNamed
    cases hFound : p.env.findSome? (EnvOverride.violation? action) with
    | none =>
      have hKept := not_breaks_of_findSome? (EnvOverride.finds_violation? action) hFound
      intro place v h
      cases h with
      | action bad => exact hAction bad
      | override listed bad => exact hKept _ (List.mem_of_getElem? listed) _ _ bad
    | some v =>
      obtain ⟨kept, o, more, place, hEnv, ⟨hBreaks, hFirst⟩, hKept⟩ :=
        exists_isFirst_of_findSome? (EnvOverride.finds_violation? action) hFound
      have hListed : p.env[kept.length]? = some o := by simp [hEnv]
      refine ⟨.override kept.length place, .override hListed hBreaks, fun other w h => ?_⟩
      cases h with
      | action bad => exact absurd bad hAction
      | @override i o' place' w listed bad =>
        rcases Nat.lt_trichotomy i kept.length with hLess | rfl | hMore
        · rw [hEnv, List.getElem?_append_left hLess] at listed
          exact absurd bad (hKept o' (List.mem_of_getElem? listed) place' w)
        · cases hListed.symm.trans listed
          exact (hFirst place' w bad).imp (congrArg _) .inside
        · exact .inr (.earlier hMore)

end ActionPolicy

namespace Config

variable {c : Config}

theorem Breaks.unique {place : Place} {v w : Violation} (h : c.Breaks place v)
    (h' : c.Breaks place w) : v = w := by
  cases h with
  | tool =>
    cases h'
    rfl
  | entry listed bad =>
    cases h' with
    | entry listed' bad' =>
      cases listed.symm.trans listed'
      exact bad.unique bad'

theorem finds_violation? (c : Config) : Finds Place.Before c.Breaks c.violation? := by
  unfold violation?
  split
  · rename_i hTool
    refine ⟨.tool, .tool hTool, fun other w h => ?_⟩
    cases h with
    | tool => exact .inl rfl
    | entry => exact .inr .tool
  · rename_i hTool
    have hFinds : ∀ e : String × ActionPolicy,
        Finds EntryPlace.Before (e.2.Breaks e.1) (entryViolation? e) :=
      fun e => e.2.finds_entryViolation? e.1
    cases hFound : c.actions.entries.findSome? entryViolation? with
    | none =>
      have hKept := not_breaks_of_findSome? hFinds hFound
      intro place v h
      cases h with
      | tool bad => exact hTool bad
      | entry listed bad => exact hKept _ (SortedMap.mem_entries_iff.mpr listed) _ _ bad
    | some v =>
      obtain ⟨kept, ⟨action, p⟩, more, place, hEntries, ⟨hBreaks, hFirst⟩, hKept⟩ :=
        exists_isFirst_of_findSome? hFinds hFound
      have hListed : c.actions.get? action = some p :=
        SortedMap.mem_entries_iff.mp (by simp [hEntries])
      have hMore : ∀ e ∈ more, Bytes.ofText action < Bytes.ofText e.1 := by
        have hSorted := c.actions.sorted
        rw [hEntries] at hSorted
        exact (List.pairwise_cons.mp (List.pairwise_append.mp hSorted).2.1).1
      refine ⟨.entry action place, .entry hListed hBreaks, fun other w h => ?_⟩
      cases h with
      | tool bad => exact absurd bad hTool
      | @entry action' p' place' w listed bad =>
        have hMem : (action', p') ∈ kept ++ (action, p) :: more :=
          hEntries ▸ SortedMap.mem_entries_iff.mpr listed
        rcases List.mem_append.mp hMem with hMem | hMem
        · exact absurd bad (hKept _ hMem place' w)
        · rcases List.mem_cons.mp hMem with hSame | hMem
          · cases hSame
            exact (hFirst place' w bad).imp (congrArg _) .inside
          · exact .inr (.smaller (hMore _ hMem))

theorem violation?_eq_some_iff {v : Violation} :
    c.violation? = some v ↔ ∃ place, IsFirst Place.Before c.Breaks place v := by
  have hFinds := c.finds_violation?
  constructor
  · intro h
    rwa [h] at hFinds
  · rintro ⟨place, hFirst⟩
    cases hFound : c.violation? with
    | none =>
      rw [hFound] at hFinds
      exact absurd hFirst.1 (hFinds place v)
    | some w =>
      rw [hFound] at hFinds
      obtain ⟨place', hFirst'⟩ := hFinds
      rw [hFirst'.report_eq hFirst (fun _ _ h => h.asymm) fun _ _ _ h => h.unique]

/-! ### Documents -/

theorem wellFormed_iff_texts :
    c.WellFormed ↔
      c.tool ≠ some "" ∧ ∀ action p, c.actions.get? action = some p →
        action ≠ "" ∧ ∀ o ∈ p.env, o.name ≠ "" ∧ '=' ∉ o.name.toList ∧ '\x00' ∉ o.name.toList ∧
          '\x00' ∉ o.value.toList := by
  simp only [← EnvOverride.isSettable_iff]
  constructor
  · intro h
    exact ⟨h.tool, fun action p listed => h.actions _ (SortedMap.mem_entries_iff.mpr listed)⟩
  · rintro ⟨hTool, hEntries⟩
    exact ⟨hTool, fun e he => hEntries e.1 e.2 (SortedMap.mem_entries_iff.mp he)⟩

/-- What is said about a TOML document `text` with the entries `entries`. -/
structure ReportsFirst (text : String) (entries : Toml.Entries) : Prop where
  /-- It is accepted exactly if it decodes to a configuration in which nothing is amiss. -/
  accepted : ∀ c, parse text = .ok c ↔ Schema.config entries = .ok c ∧
    c.tool ≠ some "" ∧ ∀ action p, c.actions.get? action = some p →
      action ≠ "" ∧ ∀ o ∈ p.env, o.name ≠ "" ∧ '=' ∉ o.name.toList ∧ '\x00' ∉ o.name.toList ∧
        '\x00' ∉ o.value.toList
  /-- If it does not decode, that is what is reported. -/
  undecoded : ∀ e, parse text = .error (.wrongShape e) ↔ Schema.config entries = .error e
  /-- If it decodes, the first broken rule is reported. -/
  refused : ∀ v, parse text = .error (.invalid v) ↔
    ∃ c place, Schema.config entries = .ok c ∧ IsFirst Place.Before c.Breaks place v
  noOther : parse text ≠ .error .notToml
  /-- How a document orders its tables and keys does not show in the report. -/
  alike : ∀ text' entries' c c', Toml.parse? text' = some entries' →
    Schema.config entries = .ok c → Schema.config entries' = .ok c' → c'.tool = c.tool →
    c'.actions = c.actions →
    ∀ v, parse text' = .error (.invalid v) ↔ parse text = .error (.invalid v)
  emptyAction : ∀ c, Schema.config entries = .ok c → c.tool ≠ some "" →
    "" ∈ c.actions.actions → parse text = .error (.invalid .emptyAction)

/-- A TOML document is accepted if it decodes and keeps all rules.  Otherwise it is reported that it
does not decode, or else which rule it breaks first. -/
theorem parse_reportsFirst {text : String} {entries : Toml.Entries}
    (h : Toml.parse? text = some entries) : ReportsFirst text entries := by
  have hInvalid : ∀ c v, Schema.config entries = .ok c →
      (parse text = .error (.invalid v) ↔ c.violation? = some v) := by
    intro c v hSchema
    rw [parse_eq_invalid]
    simp [h, hSchema]
  exact {
    accepted := fun c => by
      rw [parse_eq_ok, ← wellFormed_iff_texts, ← violation?_eq_none_iff]
      simp [h]
    undecoded := fun e => by
      rw [parse_eq_wrongShape]
      simp [h]
    refused := fun v => by
      simp only [parse_eq_invalid, violation?_eq_some_iff]
      simp [h]
    noOther := by
      rw [Ne, parse_eq_notToml]
      simp [h]
    alike := fun text' entries' c c' hToml hSchema hSchema' hTool hActions v => by
      have hSame : c'.violation? = c.violation? := by rw [violation?, violation?, hTool, hActions]
      rw [hInvalid c v hSchema, ← hSame, parse_eq_invalid]
      simp [hToml, hSchema']
    emptyAction := fun c hSchema hTool hListed => by
      obtain ⟨p, hp⟩ := Option.isSome_iff_exists.mp (SortedMap.mem_keys.mp hListed)
      rw [hInvalid c _ hSchema, violation?_eq_some_iff]
      refine ⟨.entry "" .action, .entry hp (.action rfl), fun other w h => ?_⟩
      cases h with
      | tool bad => exact absurd bad hTool
      | @entry action p' place w listed bad =>
        by_cases hName : action = ""
        · subst hName
          cases bad with
          | action => exact .inl rfl
          | override => exact .inr (.inside .action)
        · refine .inr (.smaller ?_)
          have hne : Bytes.ofText action ≠ [] := mt Bytes.ofText_eq_nil.mp hName
          obtain ⟨b, r, hBytes⟩ := List.exists_cons_of_ne_nil hne
          rw [hBytes, Bytes.ofText_empty]
          exact .nil }

/-- A document with three broken rules, of which the one reported stands second: the action `a`
comes before `b`, and the name of its second override before the value. -/
theorem reportsFirst_secondAction :
    let text := "[[actions.b.env]]\nname = \"\"\nvalue = \"\"\n" ++
      "[[actions.a.env]]\nname = \"A\"\nvalue = \"1\"\n" ++
      "[[actions.a.env]]\nname = \"B=C\"\nvalue = \"\\u0000\"\n"
    ∃ entries, Toml.parse? text = some entries ∧ ReportsFirst text entries ∧
      parse text = .error (.invalid (.badName "a" "B=C")) := by
  intro text
  have hReport : (decode? text).bind violation? = some (.badName "a" "B=C") := by decide +kernel
  obtain ⟨c, hDecode, hViolation⟩ := Option.bind_eq_some_iff.mp hReport
  obtain ⟨entries, hToml, hSchema⟩ := decode?_eq_some_iff.mp hDecode
  exact ⟨entries, hToml, parse_reportsFirst hToml,
    parse_eq_invalid.mpr ⟨entries, c, hToml, hSchema, hViolation⟩⟩

end Config

end BuildDispatch
