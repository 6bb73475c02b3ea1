import BuildDispatch.Command.Process
import BuildDispatch.Proofs.Dispatch.Plan

/-! What a run hands on.  A command line that comes to a command has one action and one rest, and
the argument vector is the tool, the action, the arguments of the policy and that rest, byte for
byte.  Nothing in the rest is read: another rest gives the same command with the other rest at its
end. -/

namespace BuildDispatch

namespace CommandLine.Layout

/-- The layout with other words behind its action. -/
def withRest (l : Layout) (rest : List Bytes) : Layout := { l with rest }

theorem WellFormed.withRest {l : Layout} (h : l.WellFormed) (rest : List Bytes) :
    (l.withRest rest).WellFormed :=
  ⟨h.nodup, h.plain⟩

theorem tokens_invocation (l : Layout) : l.invocation.tokens = .ofText l.action :: l.rest := rfl

/-- Two layouts of one command line have the same action and the same rest. -/
theorem WellFormed.eq_of_words_eq {l l' : Layout} (h : l.WellFormed) (h' : l'.WellFormed)
    (e : l'.words = l.words) : l'.action = l.action ∧ l'.rest = l.rest := by
  have hParse := parse_words h'
  rw [e, parse_words h] at hParse
  have hInvocation : l.invocation = l'.invocation := Except.ok.inj hParse
  have hTokens := congrArg Invocation.tokens hInvocation
  rw [tokens_invocation, tokens_invocation, List.cons.injEq] at hTokens
  exact ⟨Bytes.ofText_inj hTokens.1.symm, hTokens.2.symm⟩

/-- The request of a layout is its action, which must not be empty, and its rest. -/
theorem ofWords_tokens_eq_ok {l : Layout} {r : Request} :
    Request.ofWords l.invocation.tokens = .ok r ↔ r = ⟨l.action, l.rest⟩ ∧ l.action ≠ "" := by
  rw [Request.ofWords_eq_ok, tokens_invocation]
  constructor
  · rintro ⟨h, hne⟩
    obtain ⟨hAction, hRest⟩ := List.cons.inj h
    have hAction := Bytes.ofText_inj hAction
    rw [hAction, hRest]
    exact ⟨rfl, hne⟩
  · rintro ⟨rfl, hne⟩
    exact ⟨rfl, hne⟩

end CommandLine.Layout

namespace Dispatch

open CommandLine (Layout)

/-- The command `c` is composed for the layout `l` of the words of a command line, with everything
behind the action handed on as it is. -/
structure HandsOn (words : List Bytes) (block : EnvironmentBlock) (file : FileState)
    (l : Layout) (config : Config) (c : Command) : Prop where
  wellFormed : l.WellFormed
  words_eq : l.words = words
  /-- The action and the rest can be told apart in one way only. -/
  unique : ∀ l' : Layout, l'.WellFormed → l'.words = words →
    l'.action = l.action ∧ l'.rest = l.rest
  load : Config.load configPath file = .ok config
  parse : CommandLine.parse words = .ok l.invocation
  argv :
    let preset := presetFor l.invocation config
    let tool := config.toolFor preset
    c.argv = [tool.program] ++ tool.toolchain.toList.map (fun name => .ofText ("+" ++ name))
      ++ [.ofText l.action] ++ (policyFor config preset l.action).args.map .ofText ++ l.rest
  action : c.action = .ofText l.action
  /-- The action stands at its index, which the toolchain moves on by one. -/
  actionIndex : c.actionIndex < c.args.length ∧ c.args[c.actionIndex]? = some (.ofText l.action)
  /-- Only this command can be started, and its process is given exactly the argument vector and
  the environment. -/
  started : ∀ answer d, ((plan words block file).finish answer).started = some d → d = c
  process : (∀ w ∈ c.argv, (0 : UInt8) ∉ w) → c.process.program :: c.process.args = c.argv
  env : c.process.env = c.env
  /-- Other words behind the action change nothing in front of them. -/
  rest : ∀ rest,
    CommandLine.parse (l.withRest rest).words = .ok { l.invocation with trailing := rest } ∧
    ∃ d front, (plan (l.withRest rest).words block file).command? = some d ∧ d.env = c.env ∧
      c.argv = front ++ l.rest ∧ d.argv = front ++ rest

/-- Every command that a run composes hands on what stands behind the action, untouched. -/
theorem argv_verbatim {words : List Bytes} {block : EnvironmentBlock} {file : FileState}
    {c : Command} (h : (plan words block file).command? = some c) :
    ∃ l config, HandsOn words block file l config c := by
  obtain ⟨i, request, config, hParse, hRequest, hLoad, rfl⟩ :=
    (course_plan words block file).command?_eq_some.mp h
  obtain ⟨l, hWellFormed, rfl, rfl⟩ := CommandLine.exists_layout_of_parse hParse
  obtain ⟨rfl, hne⟩ := Layout.ofWords_tokens_eq_ok.mp hRequest
  have hArgv := argv_commandFor config (presetFor l.invocation config) ⟨l.action, l.rest⟩
    block.environment
  refine ⟨l, config, ?_⟩
  exact {
    wellFormed := hWellFormed
    words_eq := rfl
    unique := fun l' h' e => hWellFormed.eq_of_words_eq h' e
    load := hLoad
    parse := hParse
    argv := hArgv
    action := rfl
    actionIndex := by
      have hIndex := Command.args_actionIndex
        (commandFor config (presetFor l.invocation config) ⟨l.action, l.rest⟩ block.environment)
      exact ⟨(List.getElem?_eq_some_iff.mp hIndex).1, hIndex⟩
    started := fun answer d hd => by
      rw [Plan.started_finish] at hd
      exact Option.some.inj ((Plan.command?_of_toStart? hd).symm.trans h)
    process := Command.argv_process
    env := rfl
    rest := fun rest => by
      have hOther := CommandLine.parse_words (hWellFormed.withRest rest)
      have hOtherRequest := Layout.ofWords_tokens_eq_ok (l := l.withRest rest).mpr ⟨rfl, hne⟩
      refine ⟨hOther, _, _, (course_plan _ block file).command?_eq_some.mpr
        ⟨_, _, config, hOther, hOtherRequest, hLoad, rfl⟩, rfl, hArgv, ?_⟩
      exact argv_commandFor config (presetFor l.invocation config) ⟨l.action, rest⟩
        block.environment }

/-- An action that looks like an option, and behind it a separator, an empty word, an option and a
byte that is no text. -/
theorem argv_verbatim_rest_like_options :
    let words := ["-n", "--preset", "rbtree", "--", "-t", "--", "", "-v"].map Bytes.ofText
      ++ [[0xFF]]
    let file := FileState.holds (.ofText "tool = \"t\"\n")
    ∃ c, (plan words ⟨[]⟩ file).command? = some c ∧
      c.argv = ["t", "+nightly", "-t", "--", "", "-v"].map Bytes.ofText ++ [[0xFF]] ∧
      ∃ l config, HandsOn words ⟨[]⟩ file l config c := by
  intro words file
  have hArgv : (plan words ⟨[]⟩ file).command?.map Command.argv =
      some (["t", "+nightly", "-t", "--", "", "-v"].map Bytes.ofText ++ [[0xFF]]) := by
    decide +kernel
  obtain ⟨c, hc, hArgv⟩ := Option.map_eq_some_iff.mp hArgv
  exact ⟨c, hc, hArgv, argv_verbatim hc⟩

end Dispatch

end BuildDispatch
