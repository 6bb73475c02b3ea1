import BuildDispatch.Command.Rendering

/-!
Reading a line back as a shell does: words end at blanks outside quotes, text between apostrophes
stands for itself, and so does a character behind a backslash.  A word keeps for each character
whether it was quoted, since only unquoted text can make it an assignment.  Main statement: quoted
words with single spaces between them are read back as the same words.
-/

namespace BuildDispatch

namespace ShellLine

/-- A character of a word, and whether a quote or a backslash protects it. -/
structure Letter where
  char : Char
  isQuoted : Bool
  deriving Repr, DecidableEq

/-- A word as it was read. -/
abbrev Word := List Letter

/-- The characters of a word. -/
def Word.chars (w : Word) : List Char := w.map Letter.char

/-- Blanks and ends of lines, which part words. -/
def isBreak (c : Char) : Bool := c == ' ' || c == '\t' || c == '\n'

/-- The words of a text of which `word` has been read already, if it has begun, and `inQuotes` says
whether an apostrophe is open; `none` if an apostrophe or a backslash is left open. -/
def wordsFrom : (inQuotes : Bool) → (word : Option Word) → List Char → Option (List Word)
  | true, _, [] => none
  | true, word, c :: r =>
    if c = '\'' then wordsFrom false (some (word.getD [])) r
    else wordsFrom true (some (word.getD [] ++ [⟨c, true⟩])) r
  | false, word, [] => some word.toList
  | false, word, c :: r =>
    if isBreak c then (wordsFrom false none r).map (word.toList ++ ·)
    else if c = '\'' then wordsFrom true (some (word.getD [])) r
    else if c = '\\' then
      match r with
      | [] => none
      | e :: r => wordsFrom false (some (word.getD [] ++ [⟨e, true⟩])) r
    else wordsFrom false (some (word.getD [] ++ [⟨c, false⟩])) r

/-- The words of a line. -/
def words? (s : List Char) : Option (List Word) := wordsFrom false none s

/-- The characters with which the name of a variable may begin. -/
def isNameStart (c : Char) : Bool := c.isAlpha || c == '_'

/-- The characters of the name of a variable. -/
def isNameChar (c : Char) : Bool := c.isAlphanum || c == '_'

/-- A name of a variable. -/
def isName : List Char → Bool
  | [] => false
  | c :: r => isNameStart c && r.all isNameChar

/-- A character of a name that nothing protects. -/
def Letter.isBareNameChar (l : Letter) : Bool := !l.isQuoted && isNameChar l.char

/-- The name and the value of a word that assigns: unquoted, a name and an equals sign stand at its
front. -/
def Word.assignment? (w : Word) : Option (List Char × List Char) :=
  match w.dropWhile Letter.isBareNameChar with
  | ⟨'=', false⟩ :: value =>
    let name := Word.chars (w.takeWhile Letter.isBareNameChar)
    if isName name then some (name, Word.chars value) else none
  | _ => none

/-- A line with one command: assignments, and then the words of the command. -/
structure SimpleCommand where
  assignments : List (List Char × List Char)
  words : List (List Char)
  deriving Repr, DecidableEq

/-- The words up to the first that does not assign are assignments. -/
def SimpleCommand.ofWords : List Word → SimpleCommand
  | [] => ⟨[], []⟩
  | w :: r =>
    match w.assignment? with
    | some a =>
      let c := ofWords r
      { c with assignments := a :: c.assignments }
    | none => ⟨[], (w :: r).map Word.chars⟩

/-- The command on a line. -/
def SimpleCommand.read? (s : List Char) : Option SimpleCommand := (words? s).map ofWords

/-! ### Quoted words read back -/

open ShellWord

/-- The letters as which a quoted word is read. -/
def lettersOf (s : List Char) : Word := s.map fun c => ⟨c, !plain s⟩

theorem chars_lettersOf (s : List Char) : Word.chars (lettersOf s) = s := by
  simp [Word.chars, lettersOf, Function.comp_def]

/-- No character that stands for itself parts words, quotes or escapes. -/
theorem not_special_of_isPlain {c : Char} (h : isPlain c = true) :
    isBreak c = false ∧ c ≠ '\'' ∧ c ≠ '\\' := by
  refine ⟨?_, ?_, ?_⟩
  · cases e : isBreak c with
    | false => rfl
    | true =>
      simp only [isBreak, Bool.or_eq_true, beq_iff_eq] at e
      rcases e with (rfl | rfl) | rfl <;> exact absurd h (by decide)
  · rintro rfl
    exact absurd h (by decide)
  · rintro rfl
    exact absurd h (by decide)

/-- A blank ends a word. -/
theorem wordsFrom_space (w : Option Word) (r : List Char) :
    wordsFrom false w (' ' :: r) = (wordsFrom false none r).map (w.toList ++ ·) := by
  rw [wordsFrom.eq_def]
  rfl

/-- An apostrophe opens quotes. -/
theorem wordsFrom_openQuote (w : Option Word) (r : List Char) :
    wordsFrom false w ('\'' :: r) = wordsFrom true (some (w.getD [])) r := by
  rw [wordsFrom.eq_def]
  rfl

/-- An apostrophe inside quotes closes them. -/
theorem wordsFrom_closeQuote (w : Word) (r : List Char) :
    wordsFrom true (some w) ('\'' :: r) = wordsFrom false (some w) r := by
  rw [wordsFrom.eq_def]
  rfl

/-- A backslash outside quotes makes the next character stand for itself. -/
theorem wordsFrom_backslash (w : Word) (c : Char) (r : List Char) :
    wordsFrom false (some w) ('\\' :: c :: r) = wordsFrom false (some (w ++ [⟨c, true⟩])) r := by
  rw [wordsFrom.eq_def]
  rfl

/-- A plain character outside quotes stands for itself. -/
theorem wordsFrom_plain {c : Char} (h : isPlain c = true) (w : Option Word) (r : List Char) :
    wordsFrom false w (c :: r) = wordsFrom false (some (w.getD [] ++ [⟨c, false⟩])) r := by
  obtain ⟨isBreak, quote, backslash⟩ := not_special_of_isPlain h
  rw [wordsFrom.eq_def]
  simp [isBreak, quote, backslash]

/-- Plain characters extend a word as they are. -/
theorem wordsFrom_plain_append (s r : List Char) (w : Option Word)
    (begun : w.isSome = true ∨ s ≠ []) (h : s.all isPlain = true) :
    wordsFrom false w (s ++ r) =
      wordsFrom false (some (w.getD [] ++ s.map fun c => ⟨c, false⟩)) r := by
  induction s generalizing w with
  | nil =>
    cases w with
    | none => simp at begun
    | some w => simp
  | cons c s ih =>
    rw [List.all_cons, Bool.and_eq_true] at h
    rw [List.cons_append, wordsFrom_plain h.1, ih _ (.inl rfl) h.2]
    simp

/-- The inside of single quotes, up to the closing one, extends a word as it was before quoting. -/
theorem wordsFrom_quoteChars_append (s r : List Char) (w : Word) :
    wordsFrom true (some w) (s.flatMap quoteChar ++ '\'' :: r) =
      wordsFrom false (some (w ++ s.map fun c => ⟨c, true⟩)) r := by
  induction s generalizing w with
  | nil => simp [wordsFrom_closeQuote]
  | cons c s ih =>
    by_cases e : c = '\''
    · subst e
      simp [quoteChar, wordsFrom_closeQuote, wordsFrom_backslash, wordsFrom_openQuote, ih]
    · simp [quoteChar, e, wordsFrom, ih]

/-- A quoted word extends a word, or begins one. -/
theorem wordsFrom_quote_append (s r : List Char) (w : Option Word) :
    wordsFrom false w (quote s ++ r) =
      wordsFrom false (some (w.getD [] ++ lettersOf s)) r := by
  unfold quote lettersOf
  split
  · rename_i h
    have parts := h
    simp only [plain, Bool.and_eq_true, Bool.not_eq_true', List.isEmpty_eq_false_iff] at parts
    rw [wordsFrom_plain_append s r w (.inr parts.1) parts.2, h]
    rfl
  · rename_i h
    rw [List.cons_append, List.append_assoc, List.singleton_append, wordsFrom_openQuote,
      wordsFrom_quoteChars_append, Bool.eq_false_iff.mpr h]
    rfl

/-- In front of any text, a text is read as one word. -/
def ReadsAs (s : List Char) (w : Word) : Prop :=
  ∀ r, wordsFrom false none (s ++ r) = wordsFrom false (some w) r

theorem readsAs_quote (s : List Char) : ReadsAs (quote s) (lettersOf s) :=
  fun r => wordsFrom_quote_append s r none

/-- Words with single spaces between them are read back. -/
theorem words?_intercalate {l : List (List Char × Word)} (h : ∀ p ∈ l, ReadsAs p.1 p.2) :
    words? ([' '].intercalate (l.map (·.1))) = some (l.map (·.2)) := by
  unfold words?
  induction l with
  | nil => rfl
  | cons p l ih =>
    have hp : ReadsAs p.1 p.2 := h p (by simp)
    cases l with
    | nil =>
      have hEnd := hp []
      rw [List.append_nil] at hEnd
      simp [hEnd, wordsFrom]
    | cons q l =>
      have hSpace : [' '].intercalate ((p :: q :: l).map (·.1)) =
          p.1 ++ ' ' :: [' '].intercalate ((q :: l).map (·.1)) := by
        simp [List.intercalate]
      rw [hSpace, hp, wordsFrom_space, ih fun p hp => h p (by simp [hp])]
      rfl

/-- Quoted words with single spaces between them are read back. -/
theorem words?_intercalate_quote (l : List (List Char)) :
    words? ([' '].intercalate (l.map quote)) = some (l.map lettersOf) := by
  have hAll : ∀ p ∈ l.map fun s => (quote s, lettersOf s), ReadsAs p.1 p.2 := by
    intro p hp
    obtain ⟨s, -, rfl⟩ := List.mem_map.mp hp
    exact readsAs_quote s
  simpa [Function.comp_def] using words?_intercalate hAll

end ShellLine

end BuildDispatch
