import BuildDispatch.Config.File
import BuildDispatch.Proofs.Results

/-! The results of reading a configuration from a text, each with what leads to it: the text is no
document, the document does not decode, the configuration breaks a rule, or nothing is amiss. -/

namespace BuildDispatch

namespace Config

variable {text : String}

theorem parse_eq_ok {c : Config} :
    parse text = .ok c ↔
      ∃ entries, Toml.parse? text = some entries ∧ Schema.config entries = .ok c ∧
        c.violation? = none := by
  constructor
  · intro h
    unfold parse at h
    split at h
    · cases h
    · rename_i entries hToml
      split at h
      · cases h
      · rename_i d hSchema
        split at h
        · cases h
        · rename_i hValid
          cases h
          exact ⟨entries, hToml, hSchema, hValid⟩
  · rintro ⟨entries, hToml, hSchema, hValid⟩
    simp [parse, hToml, hSchema, hValid]

theorem parse_eq_invalid {v : Violation} :
    parse text = .error (.invalid v) ↔
      ∃ entries c, Toml.parse? text = some entries ∧ Schema.config entries = .ok c ∧
        c.violation? = some v := by
  constructor
  · intro h
    unfold parse at h
    split at h
    · cases h
    · rename_i entries hToml
      split at h
      · cases h
      · rename_i c hSchema
        split at h
        · rename_i hBroken
          cases h
          exact ⟨entries, c, hToml, hSchema, hBroken⟩
        · cases h
  · rintro ⟨entries, c, hToml, hSchema, hBroken⟩
    simp [parse, hToml, hSchema, hBroken]

theorem parse_eq_wrongShape {e : SchemaError} :
    parse text = .error (.wrongShape e) ↔
      ∃ entries, Toml.parse? text = some entries ∧ Schema.config entries = .error e := by
  constructor
  · intro h
    unfold parse at h
    split at h
    · cases h
    · rename_i entries hToml
      split at h
      · rename_i hSchema
        cases h
        exact ⟨entries, hToml, hSchema⟩
      · split at h <;> cases h
  · rintro ⟨entries, hToml, hSchema⟩
    simp [parse, hToml, hSchema]

theorem parse_eq_notToml : parse text = .error .notToml ↔ Toml.parse? text = none := by
  constructor
  · intro h
    unfold parse at h
    split at h
    · assumption
    · split at h
      · cases h
      · split at h <;> cases h
  · intro hToml
    simp [parse, hToml]

/-- What is computed from the configuration of a text tells that there is one. -/
theorem exists_parse_of_map {α : Type} {f : Config → α} {a : α}
    (h : (parse text).toOption.map f = some a) : ∃ c, parse text = .ok c ∧ f c = a := by
  obtain ⟨c, hc, hValue⟩ := Option.map_eq_some_iff.mp h
  exact ⟨c, toOption_eq_some_iff.mp hc, hValue⟩

/-- The settings that a text spells, be they in order or not. -/
def decode? (text : String) : Option Config :=
  (Toml.parse? text).bind fun entries => (Schema.config entries).toOption

theorem decode?_eq_some_iff {c : Config} :
    decode? text = some c ↔
      ∃ entries, Toml.parse? text = some entries ∧ Schema.config entries = .ok c := by
  simp only [decode?, Option.bind_eq_some_iff, toOption_eq_some_iff]

theorem parse_of_decode? {c : Config} (h : decode? text = some c) :
    parse text = c.violation?.elim (.ok c) fun v => .error (.invalid v) := by
  obtain ⟨entries, hToml, hSchema⟩ := decode?_eq_some_iff.mp h
  cases hViolation : c.violation? with
  | none => simp [parse, hToml, hSchema, hViolation]
  | some v => simp [parse, hToml, hSchema, hViolation]

end Config

end BuildDispatch
