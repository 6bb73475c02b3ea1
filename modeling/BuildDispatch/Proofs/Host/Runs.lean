import BuildDispatch.Host
import BuildDispatch.Proofs.Dispatch.Stages

/-! What a run comes to on a host.  All of it is said for any behaviour of processes: a run adds to
what its process does no more than its own output and its notes. -/

namespace BuildDispatch

namespace Host

variable {c : Command} {behaviour : Behaviour}

/-! ### Starting -/

theorem holdsNul_eq_false_iff :
    holdsNul c = false ↔ (∀ word ∈ c.argv, (0 : UInt8) ∉ word) ∧
      ∀ e ∈ c.env.entries, (0 : UInt8) ∉ e.1 ∧ (0 : UInt8) ∉ e.2 := by
  simp [holdsNul]

theorem start_of_holdsNul (hNul : holdsNul c = true) (h : Host) :
    h.start c behaviour = .error .nulByte := by
  rw [start, if_pos hNul]

/-- A process that is started has the program, the arguments and the environment of its command. -/
theorem start_eq (hNul : holdsNul c = false) (h : Host) :
    h.start c behaviour = behaviour h ⟨c.program, c.args, c.env⟩ := by
  obtain ⟨hWords, -⟩ := holdsNul_eq_false_iff.mp hNul
  rw [start, if_neg (Bool.eq_false_iff.mp hNul), Command.process_eq hWords]

/-! ### Carrying out -/

/-- Nothing that a host has is touched where a command is only shown. -/
theorem carryOut_show (h : Host) (notes : List Note) (c : Command) (behaviour : Behaviour) :
    h.carryOut (.show notes c) behaviour =
      ⟨⟨0, c.render ++ "\n", Note.lines notes, none, none⟩, .ofText (c.render ++ "\n"),
        .ofText (Note.lines notes), h.files⟩ := by
  simp [carryOut, Plan.finish_show]

/-- Where a command is started, all that a run comes to hangs on what the system says to that. -/
theorem carryOut_start {h : Host} {answer : Except OsError Finished}
    (hStart : h.start c behaviour = answer) (notes : List Note) :
    h.carryOut (.start notes c) behaviour =
      let ending := (Plan.start notes c).finish fun _ => answer.map Finished.status
      match answer with
      | .ok done =>
        ⟨ending, done.stdout, .ofText (Note.lines notes) ++ done.stderr, done.files⟩
      | .error _ => ⟨ending, [], .ofText (Note.lines notes), h.files⟩ := by
  have hEnding : (Plan.start notes c).finish (fun c => (h.start c behaviour).map Finished.status) =
      (Plan.start notes c).finish fun _ => answer.map Finished.status := by
    rw [Plan.finish_start, Plan.finish_start, hStart]
  simp only [carryOut, hEnding, Plan.started_finish, Plan.toStart?, Option.map_some, hStart,
    Plan.finish_start_stdout, Plan.finish_start_notes]
  cases answer with
  | ok done => rfl
  | error e => simp

/-! ### The error stream -/

/-- What the process of a plan writes to the error stream, if one is started. -/
def childStderr (h : Host) (behaviour : Behaviour) (p : Plan) : Bytes :=
  match p.toStart?.map fun c => h.start c behaviour with
  | some (.ok done) => done.stderr
  | _ => []

/-- The notes of a plan stand before all that its process writes. -/
theorem stderr_carryOut (h : Host) (p : Plan) (behaviour : Behaviour) :
    (h.carryOut p behaviour).stderr =
      .ofText (p.finish fun c => (h.start c behaviour).map Finished.status).notes ++
        h.childStderr behaviour p := by
  simp only [carryOut, childStderr, Plan.started_finish]
  cases p.toStart?.map fun c => h.start c behaviour with
  | none => rfl
  | some answer => cases answer <;> rfl

/-- On a host too, what a run notes whatever the system answers comes first. -/
theorem stderr_run (h : Host) {words : List Bytes} {block : EnvironmentBlock} {notes : String}
    (hNotes : ∀ answer, (Dispatch.ending words block
      (h.files.state (.ofText Dispatch.configPath)) answer).notes = notes)
    (behaviour : Behaviour) :
    (h.run words block behaviour).stderr = .ofText notes ++ h.childStderr behaviour
      (Dispatch.plan words block (h.files.state (.ofText Dispatch.configPath))) := by
  rw [← hNotes fun c => (h.start c behaviour).map Finished.status]
  exact h.stderr_carryOut _ behaviour

end Host

end BuildDispatch
