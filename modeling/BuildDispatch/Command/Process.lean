import BuildDispatch.Command

/-!
The process of a command, as it would be started.
-/

namespace BuildDispatch

/-- What a new process is given. -/
structure Process where
  program : Bytes
  args : List Bytes
  env : Environment
  deriving DecidableEq

/-- A word with a NUL byte cannot be handed to a process, and no process is started with one; this
text stands in its place. -/
def processWord (w : Bytes) : Bytes := if w.contains 0 then .ofText "<string-with-nul>" else w

namespace Command

/-- The process of a command: its program, its arguments, and exactly its environment. -/
def process (c : Command) : Process :=
  ⟨processWord c.program, c.args.map processWord, c.env⟩

variable {c : Command}

theorem process_eq (h : ∀ w ∈ c.argv, (0 : UInt8) ∉ w) :
    c.process = ⟨c.program, c.args, c.env⟩ := by
  have hWord : ∀ w ∈ c.argv, processWord w = w := by
    intro w hw
    rw [processWord, if_neg]
    simpa using h w hw
  have hProgram : processWord c.program = c.program := hWord _ List.mem_cons_self
  have hArgs : c.args.map processWord = c.args := by
    rw [List.map_congr_left fun w hw => hWord w (List.mem_cons_of_mem _ hw), List.map_id']
  rw [process, hProgram, hArgs]

/-- A process is given the words of its command, unless one of them holds a NUL byte. -/
theorem argv_process (h : ∀ w ∈ c.argv, (0 : UInt8) ∉ w) :
    c.process.program :: c.process.args = c.argv := by
  rw [process_eq h]
  rfl

end Command

end BuildDispatch
