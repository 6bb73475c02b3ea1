import BuildDispatch.Command.ShellLine
import BuildDispatch.Proofs.Bytes.Utf8
import Mathlib.Data.List.Nodup
import Mathlib.Data.List.TakeWhile

/-! Reading the rendering of a command back as a shell does.  An assignment is read as such exactly
when its name is one that a shell knows, and the program is read as a word of the command unless it
looks like an assignment itself, which quotes would prevent. -/

namespace BuildDispatch

namespace ShellLine

open ShellWord

/-! ### Assignments -/

/-- Unquoted letters. -/
def bare (s : List Char) : Word := s.map fun c => ⟨c, false⟩

@[simp] theorem chars_bare (s : List Char) : Word.chars (bare s) = s := by
  simp [Word.chars, bare, Function.comp_def]

theorem isPlain_of_isNameChar {c : Char} (h : isNameChar c = true) : isPlain c = true := by
  rcases Bool.or_eq_true_iff.mp h with hc | hc
  · simp [isPlain, hc]
  · rw [eq_of_beq hc]
    decide

theorem isNameChar_of_isNameStart {c : Char} (h : isNameStart c = true) : isNameChar c = true := by
  rcases Bool.or_eq_true_iff.mp h with hc | hc
  · simp [isNameChar, Char.isAlphanum, hc]
  · simp [isNameChar, hc]

theorem isNameChar_of_mem {n : List Char} (h : isName n = true) {c : Char} (hc : c ∈ n) :
    isNameChar c = true := by
  cases n with
  | nil => cases hc
  | cons d n =>
    obtain ⟨hStart, hMore⟩ := Bool.and_eq_true_iff.mp h
    rcases List.mem_cons.mp hc with rfl | hc
    · exact isNameChar_of_isNameStart hStart
    · exact List.all_eq_true.mp hMore c hc

/-- The letters of an assignment. -/
def assignmentLetters (name value : List Char) : Word :=
  bare name ++ ⟨'=', false⟩ :: lettersOf value

/-- A name and an equals sign in front of a quoted value are read as they are. -/
theorem readsAs_assignment {name : List Char} (h : isName name = true) (value : List Char) :
    ReadsAs (name ++ '=' :: quote value) (assignmentLetters name value) := by
  intro r
  have hPlain : (name ++ ['=']).all isPlain = true := by
    rw [List.all_eq_true]
    intro c hc
    rcases List.mem_append.mp hc with hc | hc
    · exact isPlain_of_isNameChar (isNameChar_of_mem h hc)
    · rw [List.mem_singleton.mp hc]
      decide
  have hFront := wordsFrom_plain_append (name ++ ['=']) (quote value ++ r) none (.inr (by simp))
    hPlain
  rw [List.append_assoc, List.cons_append, List.append_cons, hFront, wordsFrom_quote_append]
  simp [assignmentLetters, bare]

theorem bare_chars {w : Word} (h : ∀ l ∈ w, l.isQuoted = false) : bare (Word.chars w) = w := by
  have hLetter : ∀ l ∈ w, ((fun c => ⟨c, false⟩) ∘ Letter.char) l = id l := by
    intro l hl
    rw [Function.comp_apply, ← h l hl, id]
  rw [bare, Word.chars, List.map_map, List.map_congr_left hLetter, List.map_id]

theorem isBareNameChar_of_mem_bare {n : List Char} (h : isName n = true) :
    ∀ l ∈ bare n, l.isBareNameChar = true := by
  intro l hl
  obtain ⟨c, hc, rfl⟩ := List.mem_map.mp hl
  exact isNameChar_of_mem h hc

/-- A word assigns if a name and an equals sign stand at its front, both unquoted. -/
theorem assignment?_eq_some {w : Word} {n v : List Char} :
    w.assignment? = some (n, v) ↔
      ∃ value, w = bare n ++ ⟨'=', false⟩ :: value ∧ isName n = true ∧ Word.chars value = v := by
  unfold Word.assignment?
  constructor
  · intro h
    split at h
    · rename_i value hRest
      simp only [Option.ite_none_right_eq_some, Option.some.injEq, Prod.mk.injEq] at h
      obtain ⟨hName, rfl, rfl⟩ := h
      have hBare : ∀ l ∈ w.takeWhile Letter.isBareNameChar, l.isQuoted = false := by
        intro l hl
        have hl := List.mem_takeWhile_imp hl
        simp only [Letter.isBareNameChar, Bool.and_eq_true, Bool.not_eq_true'] at hl
        exact hl.1
      refine ⟨value, ?_, hName, rfl⟩
      rw [bare_chars hBare, ← hRest, List.takeWhile_append_dropWhile]
    · cases h
  · rintro ⟨value, rfl, hName, rfl⟩
    have hFront := isBareNameChar_of_mem_bare hName
    have hEquals : Letter.isBareNameChar ⟨'=', false⟩ = false := by decide
    rw [List.dropWhile_append_of_pos hFront, List.takeWhile_append_of_pos hFront,
      List.dropWhile_cons, List.takeWhile_cons, hEquals]
    simp [hName]

/-- A name, an equals sign, and characters that need no quotes. -/
def IsAssigning (s : List Char) : Prop :=
  ∃ n v, isName n = true ∧ v.all isPlain = true ∧ s = n ++ '=' :: v

theorem plain_of_isAssigning {s : List Char} (h : IsAssigning s) : plain s = true := by
  obtain ⟨n, v, hName, hv, rfl⟩ := h
  have hn : n.all isPlain = true :=
    List.all_eq_true.mpr fun c hc => isPlain_of_isNameChar (isNameChar_of_mem hName hc)
  have hEquals : isPlain '=' = true := by decide
  simp only [plain, List.all_append, List.all_cons, hn, hv, hEquals]
  simp

/-- Of the quoted words exactly those that need no quotes and look like an assignment are read as
one. -/
theorem assignment?_lettersOf {s : List Char} :
    (lettersOf s).assignment?.isSome = true ↔ IsAssigning s := by
  rw [Option.isSome_iff_exists]
  constructor
  · rintro ⟨⟨n, v⟩, h⟩
    obtain ⟨value, hw, hName, rfl⟩ := assignment?_eq_some.mp h
    have hs : s = n ++ '=' :: Word.chars value := by
      have hChars := congrArg Word.chars hw
      rw [chars_lettersOf] at hChars
      simpa [Word.chars, bare, Function.comp_def] using hChars
    have hPlain : plain s = true := by
      have hMem : (⟨'=', false⟩ : Letter) ∈ lettersOf s := by simp [hw]
      obtain ⟨c, -, hc⟩ := List.mem_map.mp hMem
      simpa using congrArg Letter.isQuoted hc
    refine ⟨n, Word.chars value, hName, ?_, hs⟩
    simp only [plain, hs, List.all_append, List.all_cons, Bool.and_eq_true] at hPlain
    exact hPlain.2.2.2
  · intro h
    have hPlain := plain_of_isAssigning h
    obtain ⟨n, v, hName, -, rfl⟩ := h
    refine ⟨(n, v), assignment?_eq_some.mpr ⟨bare v, ?_, hName, chars_bare v⟩⟩
    simp [lettersOf, hPlain, bare]

/-! ### Commands -/

/-- The letters of an assignment make one. -/
theorem assignment?_assignmentLetters {n : List Char} (h : isName n = true) (v : List Char) :
    (assignmentLetters n v).assignment? = some (n, v) :=
  assignment?_eq_some.mpr ⟨lettersOf v, rfl, h, chars_lettersOf v⟩

/-- Assignments in front of words are read as assignments. -/
theorem ofWords_append {as : List (List Char × List Char)} (h : ∀ a ∈ as, isName a.1 = true)
    (ws : List Word) :
    SimpleCommand.ofWords (as.map (fun a => assignmentLetters a.1 a.2) ++ ws) =
      ⟨as ++ (SimpleCommand.ofWords ws).assignments, (SimpleCommand.ofWords ws).words⟩ := by
  induction as with
  | nil => rfl
  | cons a as ih =>
    have hHead := assignment?_assignmentLetters (h a (by simp)) a.2
    rw [List.map_cons, List.cons_append, SimpleCommand.ofWords, hHead]
    simp [ih fun b hb => h b (by simp [hb])]

/-- Quoted words are read as words if the first of them does not look like an assignment. -/
theorem ofWords_lettersOf {s : List Char} (h : ¬ IsAssigning s) (l : List (List Char)) :
    SimpleCommand.ofWords ((s :: l).map lettersOf) = ⟨[], s :: l⟩ := by
  rw [List.map_cons, SimpleCommand.ofWords,
    Option.not_isSome_iff_eq_none.mp (mt assignment?_lettersOf.mp h)]
  simp [chars_lettersOf, Function.comp_def]

/-- A first word that looks like an assignment is read as one, although it was a word. -/
theorem assignments_ofWords_lettersOf {s : List Char} (h : IsAssigning s) (l : List (List Char)) :
    (SimpleCommand.ofWords ((s :: l).map lettersOf)).assignments ≠ [] := by
  obtain ⟨a, ha⟩ := Option.isSome_iff_exists.mp (assignment?_lettersOf.mpr h)
  rw [List.map_cons, SimpleCommand.ofWords, ha]
  exact List.cons_ne_nil _ _

/-- Whatever is read as the name of an assignment is a name. -/
theorem isName_of_mem_assignments (ws : List Word) {a : List Char × List Char}
    (h : a ∈ (SimpleCommand.ofWords ws).assignments) : isName a.1 = true := by
  induction ws with
  | nil => cases h
  | cons w ws ih =>
    rw [SimpleCommand.ofWords] at h
    split at h
    · rename_i b hb
      rcases List.mem_cons.mp h with rfl | h
      · obtain ⟨_, _, hName, _⟩ := assignment?_eq_some.mp hb
        exact hName
      · exact ih h
    · cases h

/-- The bytes of characters. -/
def bytesOf (s : List Char) : Bytes := .ofText (.ofList s)

theorem bytesOf_lossyText {b : Bytes} (h : b.IsText) : bytesOf b.lossyText.toList = b := by
  rw [bytesOf, String.ofList_toList, h.ofText_lossyText]

/-- A line that is read as assignments to `names`, each once and in this order, with the values that
`env` has for them, and as the words `argv`. -/
structure SimpleCommand.Shows (line : SimpleCommand) (names : List Bytes) (env : Environment)
    (argv : List Bytes) : Prop where
  assignments : (line.assignments.map fun a => (bytesOf a.1, some (bytesOf a.2))) =
    names.map fun name => (name, env.get? name)
  once : (line.assignments.map (·.1)).Nodup
  words : line.words.map bytesOf = argv

end ShellLine

namespace Command

open ShellLine

/-- A command all of whose shown parts are texts, and that has a value for each overridden name. -/
structure IsText (c : Command) : Prop where
  names : ∀ name ∈ c.overridden, name.IsText
  values : ∀ name ∈ c.overridden, ∃ v, c.env.get? name = some v ∧ v.IsText
  argv : ∀ word ∈ c.argv, word.IsText

/-- The names and values that the rendering shows. -/
def shownAssignments (c : Command) : List (List Char × List Char) :=
  c.overridden.filterMap fun name =>
    (c.env.get? name).map fun value => (name.lossyText.toList, value.lossyText.toList)

/-- The texts of the argument vector. -/
def shownArgv (c : Command) : List (List Char) := c.argv.map fun word => word.lossyText.toList

/-- The parts of the rendering, each with the letters as which it should be read. -/
def shownParts (c : Command) : List (List Char × Word) :=
  (c.shownAssignments.map fun a => (a.1 ++ '=' :: ShellWord.quote a.2, assignmentLetters a.1 a.2))
    ++ c.shownArgv.map fun s => (ShellWord.quote s, lettersOf s)

theorem map_fst_shownParts (c : Command) : c.shownParts.map (·.1) = c.renderedWords := by
  rw [shownParts, renderedWords, List.map_append, List.map_map, List.map_map, shownAssignments,
    List.map_filterMap, shownArgv, List.map_map]
  simp only [Option.map_map]
  rfl

theorem map_snd_shownParts (c : Command) :
    c.shownParts.map (·.2) =
      (c.shownAssignments.map fun a => assignmentLetters a.1 a.2) ++
        c.shownArgv.map lettersOf := by
  rw [shownParts, List.map_append, List.map_map, List.map_map]
  rfl

/-- Where all names are known to a shell, the rendering is read as its assignments, with whatever
the words behind them are read as. -/
theorem read?_render {c : Command} (h : ∀ a ∈ c.shownAssignments, isName a.1 = true) :
    SimpleCommand.read? c.render.toList =
      some ⟨c.shownAssignments ++ (SimpleCommand.ofWords (c.shownArgv.map lettersOf)).assignments,
        (SimpleCommand.ofWords (c.shownArgv.map lettersOf)).words⟩ := by
  have hReads : ∀ p ∈ c.shownParts, ReadsAs p.1 p.2 := by
    intro p hp
    rcases List.mem_append.mp hp with hp | hp
    · obtain ⟨a, ha, rfl⟩ := List.mem_map.mp hp
      exact readsAs_assignment (h a ha) a.2
    · obtain ⟨s, -, rfl⟩ := List.mem_map.mp hp
      exact readsAs_quote s
  rw [SimpleCommand.read?, render, String.toList_ofList, ← map_fst_shownParts,
    words?_intercalate hReads, map_snd_shownParts, Option.map_some, ofWords_append h]

/-- The texts of a command whose shown parts are texts stand for its parts. -/
theorem map_bytesOf_shownArgv {c : Command} (h : c.IsText) : c.shownArgv.map bytesOf = c.argv := by
  have hWord : ∀ word ∈ c.argv, (bytesOf ∘ fun word => word.lossyText.toList) word = id word := by
    intro word hw
    rw [Function.comp_apply, bytesOf_lossyText (h.argv word hw), id]
  rw [shownArgv, List.map_map, List.map_congr_left hWord, List.map_id]

theorem map_bytesOf_shownAssignments {c : Command} (h : c.IsText) :
    (c.shownAssignments.map fun a => (bytesOf a.1, some (bytesOf a.2))) =
      c.overridden.map fun name => (name, c.env.get? name) := by
  rw [shownAssignments, List.map_filterMap, ← List.filterMap_eq_map]
  refine List.filterMap_congr fun name hName => ?_
  obtain ⟨v, hv, hText⟩ := h.values name hName
  simp [hv, bytesOf_lossyText (h.names name hName), bytesOf_lossyText hText]

/-- The names that are shown. -/
theorem map_fst_shownAssignments {c : Command} (h : c.IsText) :
    c.shownAssignments.map (·.1) = c.overridden.map fun name => name.lossyText.toList := by
  rw [shownAssignments, List.map_filterMap, ← List.filterMap_eq_map]
  refine List.filterMap_congr fun name hName => ?_
  obtain ⟨v, hv, -⟩ := h.values name hName
  simp [hv]

theorem isName_of_mem_shownAssignments {c : Command} (h : c.IsText)
    (hNames : ∀ name ∈ c.overridden, isName name.lossyText.toList = true) :
    ∀ a ∈ c.shownAssignments, isName a.1 = true := by
  intro a ha
  have hFst : a.1 ∈ c.shownAssignments.map (·.1) := List.mem_map_of_mem ha
  rw [map_fst_shownAssignments h] at hFst
  obtain ⟨name, hName, hEq⟩ := List.mem_map.mp hFst
  rw [← hEq]
  exact hNames name hName

/-- The names of a line that shows a command are names to a shell. -/
theorem isName_of_shows {c : Command} {line : SimpleCommand}
    (hRead : SimpleCommand.read? c.render.toList = some line)
    (h : line.Shows c.overridden c.env c.argv) :
    ∀ name ∈ c.overridden, isName name.lossyText.toList = true := by
  intro name hName
  obtain ⟨ws, -, rfl⟩ := Option.map_eq_some_iff.mp hRead
  have hMem : (name, c.env.get? name) ∈
      (SimpleCommand.ofWords ws).assignments.map fun a => (bytesOf a.1, some (bytesOf a.2)) := by
    rw [h.assignments]
    exact List.mem_map_of_mem hName
  obtain ⟨a, ha, hEq⟩ := List.mem_map.mp hMem
  have hNameEq : bytesOf a.1 = name := (Prod.mk.inj hEq).1
  rw [← hNameEq, bytesOf, Bytes.lossyText_ofText, String.toList_ofList]
  exact isName_of_mem_assignments ws ha

/-- The rendering of a command of texts shows the command exactly if a shell knows all names in it
and does not take the program for an assignment. -/
theorem exists_shows_iff {c : Command} (h : c.IsText) (hOnce : c.overridden.Nodup) :
    (∃ line, SimpleCommand.read? c.render.toList = some line ∧
        line.Shows c.overridden c.env c.argv) ↔
      (∀ name ∈ c.overridden, isName name.lossyText.toList = true) ∧
        ¬ IsAssigning c.program.lossyText.toList := by
  have hArgv : c.shownArgv =
      c.program.lossyText.toList :: c.args.map fun word => word.lossyText.toList := rfl
  constructor
  · rintro ⟨line, hRead, hShows⟩
    have hNames := isName_of_shows hRead hShows
    refine ⟨hNames, fun hAssigning => ?_⟩
    rw [read?_render (isName_of_mem_shownAssignments h hNames)] at hRead
    cases hRead
    -- One assignment too many has been read.
    have hLength := congrArg List.length hShows.assignments
    rw [← map_bytesOf_shownAssignments h, List.length_map, List.length_map, List.length_append,
      hArgv] at hLength
    have hMore := List.length_pos_iff.mpr (assignments_ofWords_lettersOf hAssigning
      (c.args.map fun word => word.lossyText.toList))
    omega
  · rintro ⟨hNames, hProgram⟩
    refine ⟨_, read?_render (isName_of_mem_shownAssignments h hNames), ?_⟩
    rw [hArgv, ofWords_lettersOf hProgram, ← hArgv, List.append_nil]
    exact {
      assignments := map_bytesOf_shownAssignments h
      once := by
        rw [map_fst_shownAssignments h]
        refine List.Nodup.map_on (fun name hName other hOther hEq => ?_) hOnce
        rw [← (h.names name hName).ofText_lossyText, String.toList_injective hEq,
          (h.names other hOther).ofText_lossyText]
      words := map_bytesOf_shownArgv h }

end Command

end BuildDispatch
