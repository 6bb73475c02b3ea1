import BuildDispatch.Proofs.Command.ReadBack

/-! Quoted words on a line.  Reading gives back the words, whatever characters they hold, and what
stands outside single quotes is harmless: characters without a meaning to a shell, spaces between
the words, and escaped apostrophes.  So a line shows which words it is made of, and commands that
override nothing can be told apart by their renderings. -/

namespace BuildDispatch

namespace ShellLine

open ShellWord

/-! ### Outside single quotes -/

/-- What stands on a line outside single quotes, without the apostrophes that open and close
them. -/
def outside : (inQuotes : Bool) → List Char → List Char
  | _, [] => []
  | true, c :: r => if c = '\'' then outside false r else outside true r
  | false, c :: r =>
    if c = '\'' then outside true r
    else if c = '\\' then
      match r with
      | [] => ['\\']
      | e :: r => '\\' :: e :: outside false r
    else c :: outside false r

/-- Unquoted text of a word that is left as it is: ASCII letters and digits, some punctuation, and
escaped apostrophes. -/
inductive IsBareText : List Char → Prop
  | nil : IsBareText []
  | plain {c : Char} {r : List Char} (h : c.isAlphanum = true ∨ c ∈ "-_+=,./:@%".toList)
      (rest : IsBareText r) : IsBareText (c :: r)
  | apostrophe {r : List Char} (rest : IsBareText r) : IsBareText ('\\' :: '\'' :: r)

/-- Characters that part words, quote, join commands or are expanded where nothing quotes them. -/
def specials : List Char :=
  ['|', '&', ';', '<', '>', '(', ')', '$', '\x60', '\\', '"', '\'', ' ', '\t', '\n', '*', '?', '[',
    ']', '#', '~', '\x7b', '\x7d', '!', '^']

def isSpecial (c : Char) : Bool := specials.contains c

theorem isSpecial_of_isPlain {c : Char} (h : isPlain c = true) : isSpecial c = false := by
  have hSpecials : specials.all (fun d => !isPlain d) = true := by decide
  cases hSpecial : isSpecial c with
  | false => rfl
  | true =>
    have hNot := List.all_eq_true.mp hSpecials c (List.contains_iff_mem.mp hSpecial)
    rw [h] at hNot
    cases hNot

theorem outside_openQuote (r : List Char) : outside false ('\'' :: r) = outside true r := by
  rw [outside.eq_def]
  rfl

theorem outside_closeQuote (r : List Char) : outside true ('\'' :: r) = outside false r := by
  rw [outside.eq_def]
  rfl

theorem outside_apostrophe (r : List Char) :
    outside false ('\\' :: '\'' :: r) = '\\' :: '\'' :: outside false r := by
  rw [outside.eq_def]
  rfl

theorem outside_space (r : List Char) : outside false (' ' :: r) = ' ' :: outside false r := by
  rw [outside.eq_def]
  rfl

theorem outside_plain_append (s r : List Char) (h : s.all isPlain = true) :
    outside false (s ++ r) = s ++ outside false r := by
  induction s with
  | nil => rfl
  | cons c s ih =>
    rw [List.all_cons, Bool.and_eq_true] at h
    obtain ⟨-, hQuote, hBackslash⟩ := not_special_of_isPlain h.1
    rw [List.cons_append, outside.eq_def]
    simp [hQuote, hBackslash, ih h.2]

/-- What is left of a character inside single quotes: an apostrophe has to leave them. -/
def leftOutside (c : Char) : List Char := if c = '\'' then ['\\', '\''] else []

theorem outside_quoteChars_append (s r : List Char) :
    outside true (s.flatMap quoteChar ++ '\'' :: r) = s.flatMap leftOutside ++ outside false r := by
  induction s with
  | nil => exact outside_closeQuote r
  | cons c s ih =>
    by_cases e : c = '\''
    · subst e
      simp [quoteChar, leftOutside, outside_closeQuote, outside_apostrophe, outside_openQuote, ih]
    · simp [quoteChar, leftOutside, e, outside, ih]

/-- What stands outside single quotes in a quoted word. -/
def bareText (s : List Char) : List Char := if plain s then s else s.flatMap leftOutside

theorem outside_quote_append (s r : List Char) :
    outside false (quote s ++ r) = bareText s ++ outside false r := by
  unfold quote bareText
  split
  · rename_i h
    exact outside_plain_append s r (Bool.and_eq_true_iff.mp h).2
  · rw [List.cons_append, List.append_assoc, List.singleton_append, outside_openQuote,
      outside_quoteChars_append]

theorem isBareText_of_all_isPlain {s : List Char} (h : s.all isPlain = true) : IsBareText s := by
  induction s with
  | nil => exact .nil
  | cons c s ih =>
    rw [List.all_cons, Bool.and_eq_true] at h
    exact .plain ((Bool.or_eq_true_iff.mp h.1).imp id List.contains_iff_mem.mp) (ih h.2)

theorem isBareText_leftOutside (s : List Char) : IsBareText (s.flatMap leftOutside) := by
  induction s with
  | nil => exact .nil
  | cons c s ih =>
    by_cases e : c = '\''
    · subst e
      exact .apostrophe ih
    · rw [List.flatMap_cons, leftOutside, if_neg e]
      exact ih

theorem isBareText_bareText (s : List Char) : IsBareText (bareText s) := by
  unfold bareText
  split
  · rename_i h
    exact isBareText_of_all_isPlain (Bool.and_eq_true_iff.mp h).2
  · exact isBareText_leftOutside s

theorem outside_intercalate_quote (l : List (List Char)) :
    outside false ([' '].intercalate (l.map quote)) = [' '].intercalate (l.map bareText) := by
  induction l with
  | nil => rfl
  | cons s l ih =>
    cases l with
    | nil =>
      have hWord := outside_quote_append s []
      rw [List.append_nil] at hWord
      rw [List.map_singleton, List.map_singleton, List.intercalate_singleton,
        List.intercalate_singleton, hWord, outside, List.append_nil]
    | cons t l =>
      rw [List.map_cons, List.map_cons, List.intercalate_cons_cons, List.append_assoc,
        List.singleton_append, outside_quote_append, outside_space, ← List.map_cons, ih,
        List.map_cons, List.map_cons, List.map_cons, List.intercalate_cons_cons,
        List.append_assoc, List.singleton_append]

/-- A line that is made of these texts, each in a word of its own. -/
structure StandsFor (line : List Char) (texts : List String) : Prop where
  /-- The texts are read back, and their characters are either quoted or mean nothing to a shell. -/
  words : ∃ ws, words? line = some ws ∧ ws.map Word.chars = texts.map String.toList ∧
    ∀ w ∈ ws, ∀ l ∈ w, l.isQuoted = false → isSpecial l.char = false
  outside : ∃ bares : List (List Char), outside false line = [' '].intercalate bares ∧
    bares.length = texts.length ∧ ∀ bare ∈ bares, IsBareText bare

theorem map_chars_map_lettersOf (l : List (List Char)) : (l.map lettersOf).map Word.chars = l := by
  rw [List.map_map]
  exact (List.map_congr_left fun s _ => chars_lettersOf s).trans (List.map_id l)

theorem isSpecial_of_mem_lettersOf {s : List Char} {l : Letter} (hl : l ∈ lettersOf s)
    (h : l.isQuoted = false) : isSpecial l.char = false := by
  obtain ⟨c, hc, rfl⟩ := List.mem_map.mp hl
  have hPlain : plain s = true := by simpa using h
  exact isSpecial_of_isPlain (List.all_eq_true.mp (Bool.and_eq_true_iff.mp hPlain).2 c hc)

theorem standsFor_intercalate_quote (texts : List String) :
    StandsFor ([' '].intercalate (texts.map fun s => quote s.toList)) texts := by
  have hLine : texts.map (fun s => quote s.toList) = (texts.map String.toList).map quote := by
    rw [List.map_map]
    rfl
  rw [hLine]
  exact {
    words := by
      refine ⟨_, words?_intercalate_quote _, map_chars_map_lettersOf _, fun w hw l hl => ?_⟩
      obtain ⟨s, -, rfl⟩ := List.mem_map.mp hw
      exact isSpecial_of_mem_lettersOf hl
    outside := by
      refine ⟨_, outside_intercalate_quote _, by simp, fun bare hBare => ?_⟩
      obtain ⟨s, -, rfl⟩ := List.mem_map.mp hBare
      exact isBareText_bareText s }

end ShellLine

namespace Command

open ShellLine

theorem words?_render {c : Command} (h : c.overridden = []) :
    words? c.render.toList = some (c.shownArgv.map lettersOf) := by
  have hWords : c.renderedWords = c.shownArgv.map ShellWord.quote := by
    rw [renderedWords, h, List.filterMap_nil, List.nil_append, shownArgv, List.map_map]
    rfl
  rw [render, String.toList_ofList, hWords, words?_intercalate_quote]

theorem shownArgv_eq_of_render_eq {c d : Command} (hc : c.overridden = []) (hd : d.overridden = [])
    (h : c.render = d.render) : c.shownArgv = d.shownArgv := by
  have hLetters : c.shownArgv.map lettersOf = d.shownArgv.map lettersOf := by
    apply Option.some.inj
    rw [← words?_render hc, ← words?_render hd, h]
  have hChars := congrArg (List.map Word.chars) hLetters
  rwa [map_chars_map_lettersOf, map_chars_map_lettersOf] at hChars

theorem argv_eq_of_render_eq {c d : Command} (hc : c.overridden = []) (hd : d.overridden = [])
    (hcText : ∀ word ∈ c.argv, word.IsText) (hdText : ∀ word ∈ d.argv, word.IsText)
    (h : c.render = d.render) : c.argv = d.argv := by
  have hIsText : ∀ {e : Command}, e.overridden = [] → (∀ word ∈ e.argv, word.IsText) →
      e.IsText := by
    intro e he heText
    refine ⟨?_, ?_, heText⟩ <;> simp [he]
  rw [← map_bytesOf_shownArgv (hIsText hc hcText), ← map_bytesOf_shownArgv (hIsText hd hdText),
    shownArgv_eq_of_render_eq hc hd h]

/-- Any texts are read back from a line of their quoted forms.  So composed commands that override
nothing and whose words are texts have the same argument vector if they are rendered alike. -/
theorem quotedTexts_standFor :
    (∀ texts : List String,
      StandsFor ([' '].intercalate (texts.map fun s => ShellWord.quote s.toList)) texts) ∧
    ∀ (tool tool' : Tool) (request request' : Request) (policy policy' : ActionPolicy)
      (env env' : Environment), policy.env = [] → policy'.env = [] →
      (∀ word ∈ (compose tool request policy env).argv, word.IsText) →
      (∀ word ∈ (compose tool' request' policy' env').argv, word.IsText) →
      (compose tool request policy env).render = (compose tool' request' policy' env').render →
      (compose tool request policy env).argv = (compose tool' request' policy' env').argv := by
  refine ⟨standsFor_intercalate_quote, ?_⟩
  intro tool tool' request request' policy policy' env env' hNone hNone'
  have hOverridden : (compose tool request policy env).overridden = [] := by
    rw [compose, hNone]
    rfl
  have hOverridden' : (compose tool' request' policy' env').overridden = [] := by
    rw [compose, hNone']
    rfl
  exact argv_eq_of_render_eq hOverridden hOverridden'

/-- An empty word and an apostrophe, once from a policy and once from a request. -/
theorem quotedTexts_fromPolicy_fromRequest :
    let tool : Tool := ⟨.ofText "my tool", none⟩
    let c := compose tool ⟨"t", []⟩ ⟨[], ["", "it's"]⟩ .empty
    let d := compose tool ⟨"t", [[], .ofText "it's"]⟩ .empty .empty
    c.render = "'my tool' t '' 'it'\\''s'" ∧ c.render = d.render ∧ c.argv = d.argv := by
  intro tool c d
  have hText : ∀ word ∈ [Bytes.ofText "my tool", .ofText "t", [], .ofText "it's"],
      word.IsText := by
    intro word hWord
    simp only [List.mem_cons, List.not_mem_nil, or_false] at hWord
    rcases hWord with rfl | rfl | rfl | rfl
    · exact Bytes.isText_ofText _
    · exact Bytes.isText_ofText _
    · exact Bytes.isText_ofText ""
    · exact Bytes.isText_ofText _
  have hRender : c.render = d.render := by decide +kernel
  exact ⟨by decide +kernel, hRender,
    quotedTexts_standFor.2 tool tool _ _ ⟨[], ["", "it's"]⟩ .empty .empty .empty rfl rfl hText hText
      hRender⟩

end Command

end BuildDispatch
