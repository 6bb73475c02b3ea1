import BuildDispatch.Proofs.Toml.Values

/-! Reading back a whole document.  A written document has a line for each of its pairs, then for
each of its sections a header and a line for each pair of the section.  `parse?_text` says that its
text is read as the table it describes. -/

namespace BuildDispatch.Toml

/-! ### Lines -/

theorem Opens.lineEnd?_eq {text : List Char} (h : Opens text) : lineEnd? text = none := by
  have hBlanks := h.skipBlanks_eq
  obtain ⟨c, t, rfl, hc⟩ := h
  have hComment : c ≠ '#' := ne_of_isOpener hc (by decide)
  have hFeed : c ≠ '\n' := ne_of_isOpener hc (by decide)
  have hReturn : c ≠ '\r' := ne_of_isOpener hc (by decide)
  simp [lineEnd?, hBlanks, skipComment, newline?, hComment, hFeed, hReturn]

theorem Opens.skipByteOrderMark_eq {text : List Char} (h : Opens text) :
    skipByteOrderMark text = text := by
  obtain ⟨c, t, rfl, hc⟩ := h
  have hMark : c ≠ '\uFEFF' := ne_of_isOpener hc (by decide)
  simp [skipByteOrderMark, hMark]

/-- A line that makes one statement. -/
structure IsLine (text : List Char) (st : Statement) : Prop where
  opens : Opens text
  read : ∀ r, Statement.read (text ++ '\n' :: r) = some (st, r)

/-- A pair of a plain key and a written value makes a line. -/
theorem isLine_pair {key : String} {text : List Char} {v : Value} (hKey : IsPlainKey key)
    (h : Spells Value.maxDepth text v) :
    IsLine (Spelling.pair key text) (.pair ⟨[], key⟩ v) where
  opens := opens_pair hKey text
  read := by
    intro r
    have hSkip := ((opens_pair hKey text).append ('\n' :: r)).skipBlanks_eq
    have hPair := readPair_append (r := '\n' :: r) hKey h (by simp) hSkip
    have hFront : ∀ s, Spelling.pair key text ++ '\n' :: r ≠ '[' :: s := by
      intro s
      rw [Spelling.pair, List.append_assoc]
      exact hKey.append_ne_bracket _ s
    unfold Statement.read
    split
    · rename_i e
      exact absurd e (hFront _)
    · rename_i e
      exact absurd e (hFront _)
    · rw [hPair]
      rfl

/-- The header of a section in an outer table. -/
def sectionHeader (outer name : String) : List Char :=
  '[' :: (outer.toList ++ '.' :: (QuotedText.spell name ++ [']']))

theorem readPart_spell_append (s : String) (r : List Char) :
    KeyPath.readPart (QuotedText.spell s ++ r) = some (s, r) := by
  have hRead := QuotedText.readShort_spell_append s r
  rw [QuotedText.spell, List.cons_append] at hRead ⊢
  exact hRead

theorem read_sectionPath {outer : String} (hOuter : IsPlainKey outer) (name : String)
    (r : List Char) :
    KeyPath.read (outer.toList ++ '.' :: (QuotedText.spell name ++ ']' :: r)) =
      some (⟨[outer], name⟩, ']' :: r) := by
  have hSkip := (hOuter.opens.append ('.' :: (QuotedText.spell name ++ ']' :: r))).skipBlanks_eq
  have hName : Opens (QuotedText.spell name ++ ']' :: r) := ⟨'"', _, rfl, by decide⟩
  -- Two parts take two units of fuel, and the text is longer than that.
  have hInner : ∀ n, KeyPath.readParts (n + 1) (QuotedText.spell name ++ ']' :: r) =
      some ([name], ']' :: r) := by
    intro n
    rw [KeyPath.readParts, hName.skipBlanks_eq, readPart_spell_append]
    rfl
  have hParts : ∀ n, KeyPath.readParts (n + 2)
      (outer.toList ++ '.' :: (QuotedText.spell name ++ ']' :: r)) =
        some ([outer, name], ']' :: r) := by
    intro n
    rw [KeyPath.readParts, hSkip, hOuter.readPart_append (by decide)]
    change (KeyPath.readParts (n + 1) (QuotedText.spell name ++ ']' :: r) >>= fun x =>
      some (outer :: x.1, x.2)) = _
    rw [hInner]
    rfl
  obtain ⟨n, hLength⟩ : ∃ n,
      (outer.toList ++ '.' :: (QuotedText.spell name ++ ']' :: r)).length = n + 2 := by
    rw [List.length_append, List.length_cons, List.length_append, List.length_cons]
    exact Nat.exists_eq_add_of_le' (by omega)
  rw [KeyPath.read, hLength, hParts]
  rfl

theorem isLine_sectionHeader {outer : String} (hOuter : IsPlainKey outer) (name : String) :
    IsLine (sectionHeader outer name) (.table ⟨[outer], name⟩) where
  opens := ⟨'[', _, rfl, by decide⟩
  read := by
    intro r
    have hPath := read_sectionPath hOuter name ('\n' :: r)
    rw [sectionHeader, List.cons_append, List.append_assoc, List.cons_append, List.append_assoc,
      List.singleton_append]
    unfold Statement.read
    split
    · rename_i e
      exact absurd (List.cons.inj e).2 (hOuter.append_ne_bracket _ _)
    · rename_i e
      rw [← (List.cons.inj e).2, hPath]
      rfl
    · rename_i h
      exact absurd rfl (h _)

theorem readAll_line {text r : List Char} {st : Statement} (h : IsLine text st) {fuel : Nat}
    {more : List Statement} (hMore : Statement.readAll fuel r = some more) :
    Statement.readAll (fuel + 1) (Spelling.line text ++ r) = some (st :: more) := by
  have hOpens := h.opens.append ('\n' :: r)
  rw [Spelling.line, List.append_assoc, List.singleton_append, Statement.readAll,
    hOpens.skipBlanks_eq]
  split
  · rename_i e
    exact absurd e hOpens.ne_nil
  · rw [hOpens.lineEnd?_eq]
    change (Statement.read (text ++ '\n' :: r) >>= fun x =>
      Statement.readAll fuel x.2 >>= fun more => some (x.1 :: more)) = _
    rw [h.read]
    change (Statement.readAll fuel r >>= fun more => some (st :: more)) = _
    rw [hMore]
    rfl

/-- Lines are read one after the other. -/
theorem readAll_lines {lines : List (List Char × Statement)} (h : ∀ l ∈ lines, IsLine l.1 l.2)
    {fuel : Nat} (hFuel : lines.length < fuel) :
    Statement.readAll fuel (lines.flatMap fun l => Spelling.line l.1) =
      some (lines.map (·.2)) := by
  induction lines generalizing fuel with
  | nil =>
    obtain ⟨n, rfl⟩ := Nat.exists_eq_add_one.mpr hFuel
    rfl
  | cons l lines ih =>
    obtain ⟨n, rfl⟩ := Nat.exists_eq_add_one.mpr (Nat.zero_lt_of_lt hFuel)
    exact readAll_line (h l List.mem_cons_self)
      (ih (fun x hx => h x (List.mem_cons_of_mem l hx)) (Nat.lt_of_succ_lt_succ hFuel))

theorem length_le_length_lines (lines : List (List Char × Statement)) :
    lines.length ≤ (lines.flatMap fun l => Spelling.line l.1).length := by
  induction lines with
  | nil => exact Nat.le_refl 0
  | cons l lines ih =>
    rw [List.flatMap_cons, List.length_append, Spelling.line, List.length_append]
    simp only [List.length_cons, List.length_nil]
    omega

/-- The statements of a text are those of its lines. -/
theorem parse?_lines {lines : List (List Char × Statement)} (h : ∀ l ∈ lines, IsLine l.1 l.2) :
    parse? (String.ofList (lines.flatMap fun l => Spelling.line l.1)) =
      Entries.ofStatements? (lines.map (·.2)) := by
  have hMark : skipByteOrderMark (lines.flatMap fun l => Spelling.line l.1) =
      lines.flatMap fun l => Spelling.line l.1 := by
    cases lines with
    | nil => rfl
    | cons l lines =>
      exact (((h l List.mem_cons_self).opens.append ['\n']).append _).skipByteOrderMark_eq
  have hRead := readAll_lines h (Nat.lt_succ_of_le (length_le_length_lines lines))
  rw [parse?, String.toList_ofList]
  simp only [hMark, hRead]
  rfl

/-! ### Documents -/

/-- What a document is written from: its pairs, and the sections in its outer table. -/
structure WrittenDocument where
  outer : String
  pairs : List WrittenPair
  sections : List (String × List WrittenPair)

namespace WrittenDocument

/-- The lines of pairs, and what they state. -/
def pairLines (pairs : List WrittenPair) : List (List Char × Statement) :=
  pairs.map fun p => (p.spelling, .pair ⟨[], p.key⟩ p.value)

/-- The lines of a section, and what they state. -/
def sectionLines (outer : String) (s : String × List WrittenPair) : List (List Char × Statement) :=
  (sectionHeader outer s.1, .table ⟨[outer], s.1⟩) :: pairLines s.2

/-- The lines of a document, and what they state. -/
def lines (d : WrittenDocument) : List (List Char × Statement) :=
  pairLines d.pairs ++ d.sections.flatMap (sectionLines d.outer)

/-- The text of a document. -/
def text (d : WrittenDocument) : String :=
  String.ofList (d.lines.flatMap fun l => Spelling.line l.1)

/-- What a document says, without its spelling. -/
def outline (d : WrittenDocument) : Outline where
  outer := d.outer
  pairs := d.pairs.map WrittenPair.entry
  sections := d.sections.map fun s => (s.1, s.2.map WrittenPair.entry)

/-- A document that is read back: all pairs are, and nothing is named twice. -/
structure IsGood (d : WrittenDocument) : Prop where
  outer : IsPlainKey d.outer
  pairs : ∀ p ∈ d.pairs, p.IsGood Value.maxDepth
  sections : ∀ s ∈ d.sections, ∀ p ∈ s.2, p.IsGood Value.maxDepth
  wellFormed : d.outline.WellFormed

variable {d : WrittenDocument}

theorem isLine_of_mem_pairLines {pairs : List WrittenPair}
    (h : ∀ p ∈ pairs, p.IsGood Value.maxDepth) : ∀ l ∈ pairLines pairs, IsLine l.1 l.2 := by
  intro l hl
  obtain ⟨p, hp, rfl⟩ := List.mem_map.mp hl
  exact isLine_pair (h p hp).key (h p hp).value

theorem isLine_of_mem_lines (h : d.IsGood) : ∀ l ∈ d.lines, IsLine l.1 l.2 := by
  intro l hl
  rcases List.mem_append.mp hl with hPair | hSection
  · exact isLine_of_mem_pairLines h.pairs l hPair
  · obtain ⟨s, hs, hl⟩ := List.mem_flatMap.mp hSection
    rcases List.mem_cons.mp hl with rfl | hl
    · exact isLine_sectionHeader h.outer s.1
    · exact isLine_of_mem_pairLines (h.sections s hs) l hl

theorem map_snd_pairLines (pairs : List WrittenPair) :
    (pairLines pairs).map (·.2) = pairStatements (pairs.map WrittenPair.entry) := by
  rw [pairLines, pairStatements, List.map_map, List.map_map]
  rfl

theorem map_snd_lines (d : WrittenDocument) : d.lines.map (·.2) = d.outline.statements := by
  rw [lines, Outline.statements, List.map_append, map_snd_pairLines, List.map_flatMap, outline,
    List.flatMap_map]
  congr 2
  funext s
  rw [sectionLines, List.map_cons, map_snd_pairLines]
  rfl

/-- The text of a document is read as the table it describes. -/
theorem parse?_text (h : d.IsGood) : parse? d.text = some d.outline.entries := by
  rw [text, parse?_lines (isLine_of_mem_lines h), map_snd_lines]
  exact ofStatements?_outline h.wellFormed

end WrittenDocument

end BuildDispatch.Toml
