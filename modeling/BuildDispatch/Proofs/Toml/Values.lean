import BuildDispatch.Config.Spelling
import BuildDispatch.Proofs.Toml.Tree

/-! Reading back what was written.  `Spells room text v` says that the reader takes the value `v`
off any text that begins with `text`; strings, booleans, arrays and inline tables are written so,
the last two around values that are. -/

namespace BuildDispatch.Toml

/-! ### The first character -/

/-- Characters that may be skipped at the front of a text, or that close an array or an inline
table. -/
def skipped : List Char := [' ', '\t', '\n', '\r', '#', ']', '\x7d', '\uFEFF']

/-- Whether something to be read may begin with a character. -/
def isOpener (c : Char) : Bool := !skipped.contains c

/-- A text that begins with something to be read, so that nothing is skipped in front of it. -/
def Opens (text : List Char) : Prop := ∃ c r, text = c :: r ∧ isOpener c = true

theorem ne_of_isOpener {c d : Char} (h : isOpener c = true) (hd : d ∈ skipped) : c ≠ d := by
  rintro rfl
  simp [isOpener, hd] at h

theorem isBlank_of_isOpener {c : Char} (h : isOpener c = true) : isBlank c = false := by
  have hSpace : c ≠ ' ' := ne_of_isOpener h (by decide)
  have hTab : c ≠ '\t' := ne_of_isOpener h (by decide)
  simp [isBlank, hSpace, hTab]

theorem skipBlanks_space (s : List Char) : skipBlanks (' ' :: s) = skipBlanks s := rfl

theorem skipLayout_space (s : List Char) : skipLayout (' ' :: s) = skipLayout s := rfl

namespace Opens

variable {text : List Char}

theorem append (h : Opens text) (r : List Char) : Opens (text ++ r) := by
  obtain ⟨c, t, rfl, hc⟩ := h
  exact ⟨c, t ++ r, rfl, hc⟩

theorem skipBlanks_eq (h : Opens text) : skipBlanks text = text := by
  obtain ⟨c, t, rfl, hc⟩ := h
  simp [skipBlanks, isBlank_of_isOpener hc]

theorem skipLayout_eq (h : Opens text) : skipLayout text = text := by
  obtain ⟨c, t, rfl, hc⟩ := h
  have hComment : c ≠ '#' := ne_of_isOpener hc (by decide)
  have hFeed : c ≠ '\n' := ne_of_isOpener hc (by decide)
  have hReturn : c ≠ '\r' := ne_of_isOpener hc (by decide)
  simp [skipLayout, skipFrom, isBlank_of_isOpener hc, hComment, hFeed, hReturn]

theorem intercalate (h : Opens text) (sep : List Char) (texts : List (List Char)) :
    Opens (sep.intercalate (text :: texts)) := by
  cases texts with
  | nil => simpa using h
  | cons next texts =>
    rw [List.intercalate_cons_cons, List.append_assoc]
    exact h.append _

theorem ne_nil (h : Opens text) : text ≠ [] := by
  obtain ⟨c, t, rfl, hc⟩ := h
  exact List.cons_ne_nil c t

end Opens

/-! ### Strings -/

namespace QuotedText

/-- One quote, and behind it not two more, opens a string of one line. -/
theorem read_of_not_tripled {t : List Char} (h : ∀ r, t ≠ '"' :: '"' :: r) :
    read ('"' :: t) = readShort ('"' :: t) := by
  unfold read
  split
  · rename_i r e
    exact absurd (List.cons.inj e).2 (h r)
  · rename_i r e
    exact absurd (List.cons.inj e).1 (by decide)
  · rfl

theorem spellChar_ne_quote (c : Char) (s r : List Char) : spellChar c ++ s ≠ '"' :: r := by
  unfold spellChar
  split
  · simp
  · rename_i h
    have hQuote := (ordinary_of_not_isEscaped (by simpa using h)).1
    simp [hQuote]

/-- A written string is read back where no third quote stands behind two. -/
theorem read_spell_append (s : String) {r : List Char} (h : r.head? ≠ some '"') :
    read (spell s ++ r) = some (s, r) := by
  -- The empty string is written by two quotes, so a third one would open a string of many lines.
  have hTail : ∀ t, s.toList.flatMap spellChar ++ ['"'] ++ r ≠ '"' :: '"' :: t := by
    intro t e
    cases hs : s.toList with
    | nil =>
      rw [hs] at e
      have hr : r = '"' :: t := by simpa using e
      exact h (by rw [hr]; rfl)
    | cons c cs =>
      rw [hs, List.flatMap_cons, List.append_assoc, List.append_assoc] at e
      exact spellChar_ne_quote c _ _ e
  have hShort := readShort_spell_append s r
  rw [spell, List.cons_append] at hShort ⊢
  rw [read_of_not_tripled hTail, hShort]

end QuotedText

/-! ### Values -/

/-- What the reader makes of a text at the front: the value, with the rest left over.  Only a quote
behind the text may change that. -/
structure Spells (room : Nat) (text : List Char) (v : Value) : Prop where
  opens : Opens text
  read : ∀ r, r.head? ≠ some '"' → Value.read room (text ++ r) = some (v, r)

theorem spells_text (room : Nat) (s : String) : Spells room (QuotedText.spell s) (.string s) where
  opens := ⟨'"', _, rfl, by decide⟩
  read := by
    intro r h
    have hRead := QuotedText.read_spell_append s h
    rw [QuotedText.spell, List.cons_append] at hRead ⊢
    have hScalar : ∀ t, Value.read room ('"' :: t) = Value.readScalar ('"' :: t) := by
      intro t
      cases room <;> rfl
    rw [hScalar, Value.readScalar, if_pos (by decide), hRead]
    rfl

theorem spells_boolean (room : Nat) (b : Bool) :
    Spells room (if b then "true" else "false").toList (.boolean b) where
  opens := by
    cases b
    · exact ⟨'f', _, rfl, by decide⟩
    · exact ⟨'t', _, rfl, by decide⟩
  read := by
    intro r _
    cases b <;> cases room <;> rfl

section Arrays

variable {item : Reader Value} {fuel : Nat} {s r text : List Char} {v : Value}

theorem readItems_more (hOpens : Opens text) (hs : skipLayout s = text ++ ',' :: r)
    (hItem : item (text ++ ',' :: r) = some (v, ',' :: r)) {values : List Value} {rest : List Char}
    (hMore : Value.readItems item fuel r = some (values, rest)) :
    Value.readItems item (fuel + 1) s = some (v :: values, rest) := by
  obtain ⟨c, t, rfl, hc⟩ := hOpens
  have hClose : c ≠ ']' := ne_of_isOpener hc (by decide)
  rw [Value.readItems, hs]
  split
  · rename_i e
    exact absurd (List.cons.inj e).1 hClose
  · rw [hItem]
    change (Value.readItems item fuel r >>= fun x => some (v :: x.1, x.2)) = _
    rw [hMore]
    rfl

theorem readItems_last (hOpens : Opens text) (hs : skipLayout s = text ++ ']' :: r)
    (hItem : item (text ++ ']' :: r) = some (v, ']' :: r)) :
    Value.readItems item (fuel + 1) s = some ([v], r) := by
  obtain ⟨c, t, rfl, hc⟩ := hOpens
  have hClose : c ≠ ']' := ne_of_isOpener hc (by decide)
  rw [Value.readItems, hs]
  split
  · rename_i e
    exact absurd (List.cons.inj e).1 hClose
  · rw [hItem]
    rfl

end Arrays

/-- Items with commas between them are read one after the other. -/
theorem readItems_intercalate {room : Nat} (pieces : List (List Char × Value))
    (h : ∀ p ∈ pieces, Spells room p.1 p.2) {fuel : Nat} (hFuel : pieces.length < fuel)
    {s r : List Char}
    (hs : skipLayout s = [',', ' '].intercalate (pieces.map (·.1)) ++ ']' :: r) :
    Value.readItems (Value.read room) fuel s = some (pieces.map (·.2), r) := by
  -- Behind a comma the reader stands before a blank, so the induction is for every text that the
  -- items are reached from by skipping.
  induction pieces generalizing fuel s with
  | nil =>
    obtain ⟨n, rfl⟩ := Nat.exists_eq_add_one.mpr hFuel
    rw [Value.readItems, hs]
    rfl
  | cons p pieces ih =>
    obtain ⟨n, rfl⟩ := Nat.exists_eq_add_one.mpr (Nat.zero_lt_of_lt hFuel)
    have hp := h p List.mem_cons_self
    cases pieces with
    | nil =>
      rw [List.map_singleton, List.intercalate_singleton] at hs
      exact readItems_last hp.opens hs (hp.read _ (by simp))
    | cons q pieces =>
      have hOpens := (h q (by simp)).opens.intercalate [',', ' '] (pieces.map (·.1))
      have hMore := ih (fun x hx => h x (List.mem_cons_of_mem p hx)) (Nat.lt_of_succ_lt_succ hFuel)
        ((skipLayout_space _).trans (hOpens.append (']' :: r)).skipLayout_eq)
      rw [List.map_cons, List.map_cons, List.intercalate_cons_cons, List.append_assoc,
        List.append_assoc] at hs
      exact readItems_more hp.opens hs (hp.read _ (by simp)) hMore

theorem length_le_length_intercalate {pieces : List (List Char)} (h : ∀ p ∈ pieces, p ≠ []) :
    pieces.length ≤ ([',', ' '].intercalate pieces).length := by
  induction pieces with
  | nil => exact Nat.zero_le _
  | cons p pieces ih =>
    have hp := List.length_pos_iff.mpr (h p List.mem_cons_self)
    have ih := ih fun x hx => h x (List.mem_cons_of_mem p hx)
    cases pieces with
    | nil =>
      rw [List.intercalate_singleton]
      exact hp
    | cons q pieces =>
      rw [List.intercalate_cons_cons, List.length_append, List.length_append, List.length_cons]
      omega

/-- An array of written values is written by its items with commas between them. -/
theorem spells_array {room : Nat} {pieces : List (List Char × Value)}
    (h : ∀ p ∈ pieces, Spells room p.1 p.2) :
    Spells (room + 1) (Spelling.array (pieces.map (·.1))) (.array .brackets (pieces.map (·.2)))
    where
  opens := ⟨'[', _, rfl, by decide⟩
  read := by
    intro r _
    -- The reader has as much fuel as the text is long, and no item is written by nothing.
    have hTexts : ∀ t ∈ pieces.map (·.1), t ≠ [] := by
      intro t ht
      obtain ⟨p, hp, rfl⟩ := List.mem_map.mp ht
      exact (h p hp).opens.ne_nil
    have hLength := length_le_length_intercalate hTexts
    have hSkip : skipLayout ([',', ' '].intercalate (pieces.map (·.1)) ++ ']' :: r) =
        [',', ' '].intercalate (pieces.map (·.1)) ++ ']' :: r := by
      cases pieces with
      | nil => rfl
      | cons p pieces =>
        exact (((h p List.mem_cons_self).opens.intercalate _ _).append _).skipLayout_eq
    rw [Spelling.array, List.cons_append, List.append_assoc, List.singleton_append, Value.read,
      readItems_intercalate pieces h _ hSkip]
    · rfl
    · rw [List.length_map] at hLength
      rw [List.length_append, List.length_cons]
      omega

/-! ### Pairs -/

/-- A key that needs no quotes. -/
structure IsPlainKey (key : String) : Prop where
  nonempty : key.toList ≠ []
  bare : ∀ c ∈ key.toList, KeyPath.isBare c = true

namespace IsPlainKey

variable {key : String} {s r : List Char}

theorem opens (h : IsPlainKey key) : Opens key.toList := by
  obtain ⟨c, t, hKey⟩ := List.exists_cons_of_ne_nil h.nonempty
  have hc := h.bare c (by rw [hKey]; exact List.mem_cons_self)
  have hBare : skipped.any KeyPath.isBare = false := by decide
  refine ⟨c, t, hKey, ?_⟩
  by_contra hSkipped
  have hMem : c ∈ skipped := by simpa [isOpener] using hSkipped
  exact List.any_eq_false.mp hBare c hMem hc

/-- No header begins with a plain key. -/
theorem append_ne_bracket (h : IsPlainKey key) (s r : List Char) : key.toList ++ s ≠ '[' :: r := by
  obtain ⟨c, t, hKey⟩ := List.exists_cons_of_ne_nil h.nonempty
  intro e
  rw [hKey] at e
  have hc := h.bare c (by rw [hKey]; exact List.mem_cons_self)
  rw [(List.cons.inj e).1] at hc
  exact absurd hc (by decide)

theorem readPart_append (h : IsPlainKey key) {c : Char} (hc : KeyPath.isBare c = false) :
    KeyPath.readPart (key.toList ++ c :: r) = some (key, c :: r) := by
  have hTake : (key.toList ++ c :: r).takeWhile KeyPath.isBare = key.toList := by
    rw [List.takeWhile_append_of_pos h.bare, List.takeWhile_cons, hc]
    simp
  have hDrop : (key.toList ++ c :: r).dropWhile KeyPath.isBare = c :: r := by
    rw [List.dropWhile_append_of_pos h.bare, List.dropWhile_cons, hc]
    simp
  obtain ⟨d, t, hKey⟩ := List.exists_cons_of_ne_nil h.nonempty
  have hd := h.bare d (by rw [hKey]; exact List.mem_cons_self)
  unfold KeyPath.readPart
  split
  · rename_i e
    rw [hKey] at e
    rw [(List.cons.inj e).1] at hd
    exact absurd hd (by decide)
  · rename_i e
    rw [hKey] at e
    rw [(List.cons.inj e).1] at hd
    exact absurd hd (by decide)
  · simp only [hTake, hDrop]
    rw [if_neg (by simpa using h.nonempty), String.ofList_toList]

/-- A plain key before an equals sign is read, with the blank behind it. -/
theorem read_append (h : IsPlainKey key) (hs : skipBlanks s = key.toList ++ ' ' :: '=' :: r) :
    KeyPath.read s = some (⟨[], key⟩, '=' :: r) := by
  have hne : s ≠ [] := by
    rintro rfl
    exact (h.opens.append (' ' :: '=' :: r)).ne_nil hs.symm
  obtain ⟨n, hn⟩ := Nat.exists_eq_add_one.mpr (List.length_pos_iff.mpr hne)
  have hParts : KeyPath.readParts (n + 1) s = some ([key], '=' :: r) := by
    rw [KeyPath.readParts, hs, h.readPart_append (by decide)]
    rfl
  rw [KeyPath.read, hn, hParts]
  rfl

end IsPlainKey

section Pairs

variable {key : String} {room fuel : Nat} {s r text : List Char} {v : Value}

/-- A plain key and its value are read off a pair, also behind blanks. -/
theorem readPair_append (hKey : IsPlainKey key) (h : Spells room text v)
    (hr : r.head? ≠ some '"') (hs : skipBlanks s = Spelling.pair key text ++ r) :
    Value.readPair (Value.read room) s = some ((⟨[], key⟩, v), r) := by
  rw [Spelling.pair, List.append_assoc, List.cons_append, List.cons_append, List.cons_append] at hs
  have hEquals : literally ['='] ('=' :: ' ' :: (text ++ r)) = some (' ' :: (text ++ r)) := rfl
  rw [Value.readPair, hKey.read_append hs]
  simp only [Option.bind_eq_bind, Option.bind_some, hEquals, skipBlanks_space,
    (h.opens.append r).skipBlanks_eq, h.read r hr]

theorem opens_pair (hKey : IsPlainKey key) (text : List Char) : Opens (Spelling.pair key text) :=
  hKey.opens.append _

end Pairs

/-- A key with its value and the text of the value. -/
structure WrittenPair where
  key : String
  text : List Char
  value : Value

namespace WrittenPair

/-- How a pair is written. -/
def spelling (p : WrittenPair) : List Char := Spelling.pair p.key p.text

/-- The entry that a pair stands for. -/
def entry (p : WrittenPair) : String × Value := (p.key, p.value)

/-- The pair with its key as a path. -/
def read (p : WrittenPair) : KeyPath × Value := (⟨[], p.key⟩, p.value)

/-- A pair that is read back. -/
structure IsGood (room : Nat) (p : WrittenPair) : Prop where
  key : IsPlainKey p.key
  value : Spells room p.text p.value

end WrittenPair

section ReadPairs

variable {item : Reader Value} {fuel : Nat} {s r rest : List Char} {pair : KeyPath × Value}

theorem readPairs_more (hPair : Value.readPair item s = some (pair, ',' :: r))
    {pairs : List (KeyPath × Value)} (hMore : Value.readPairs item fuel r = some (pairs, rest)) :
    Value.readPairs item (fuel + 1) s = some (pair :: pairs, rest) := by
  rw [Value.readPairs, hPair]
  change (Value.readPairs item fuel r >>= fun x => some (pair :: x.1, x.2)) = _
  rw [hMore]
  rfl

theorem readPairs_last (hPair : Value.readPair item s = some (pair, ' ' :: '\x7d' :: r)) :
    Value.readPairs item (fuel + 1) s = some ([pair], r) := by
  rw [Value.readPairs, hPair]
  rfl

end ReadPairs

/-- Pairs with commas between them are read one after the other. -/
theorem readPairs_intercalate {room : Nat} {pieces : List WrittenPair} (hne : pieces ≠ [])
    (h : ∀ p ∈ pieces, p.IsGood room) {fuel : Nat} (hFuel : pieces.length ≤ fuel)
    {s r : List Char}
    (hs : skipBlanks s =
      [',', ' '].intercalate (pieces.map WrittenPair.spelling) ++ ' ' :: '\x7d' :: r) :
    Value.readPairs (Value.read room) fuel s = some (pieces.map WrittenPair.read, r) := by
  induction pieces generalizing fuel s with
  | nil => exact absurd rfl hne
  | cons p pieces ih =>
    obtain ⟨n, rfl⟩ := Nat.exists_eq_add_one.mpr (Nat.lt_of_lt_of_le (Nat.succ_pos _) hFuel)
    have hp := h p List.mem_cons_self
    cases pieces with
    | nil =>
      rw [List.map_singleton, List.intercalate_singleton] at hs
      exact readPairs_last (readPair_append hp.key hp.value (by simp) hs)
    | cons q pieces =>
      have hOpens := (opens_pair (h q (by simp)).key q.text).intercalate [',', ' ']
        (pieces.map WrittenPair.spelling)
      have hMore := ih (List.cons_ne_nil q pieces) (fun x hx => h x (List.mem_cons_of_mem p hx))
        (Nat.le_of_succ_le_succ hFuel)
        ((skipBlanks_space _).trans (hOpens.append (' ' :: '\x7d' :: r)).skipBlanks_eq)
      rw [List.map_cons, List.map_cons, List.intercalate_cons_cons, List.append_assoc,
        List.append_assoc] at hs
      exact readPairs_more (readPair_append hp.key hp.value (by simp) hs) hMore

theorem ofPairs?_plain (entries : Entries) :
    Value.ofPairs? (entries.map fun e => (⟨[], e.1⟩, e.2)) =
      (Fields.assignAll entries []).map fun fields => .table (Fields.entries fields) := by
  rw [Value.ofPairs?, List.foldlM_map]
  change (Fields.assignAll entries [] >>= fun fields =>
    some (Value.table (Fields.entries fields))) = _
  cases Fields.assignAll entries [] <;> rfl

/-- Pairs with different keys make up a table. -/
theorem ofPairs?_read {pieces : List WrittenPair} (h : (pieces.map WrittenPair.key).Nodup) :
    Value.ofPairs? (pieces.map WrittenPair.read) =
      some (.table (pieces.map WrittenPair.entry)) := by
  have hRead : pieces.map WrittenPair.read =
      (pieces.map WrittenPair.entry).map fun e => (⟨[], e.1⟩, e.2) := by
    rw [List.map_map]
    rfl
  have hKeys : (Fields.names [] ++ (pieces.map WrittenPair.entry).map (·.1)).Nodup := by
    rw [List.map_map]
    exact h
  rw [hRead, ofPairs?_plain, Fields.assignAll_eq _ [] hKeys, List.nil_append, Option.map_some,
    Fields.entries_leaves]

/-- What begins with a key is read as the pairs of an inline table. -/
theorem readInline_pairs {item : Reader Value} {s text r rest : List Char} (hOpens : Opens text)
    (hs : skipBlanks s = text ++ r) {pairs : List (KeyPath × Value)}
    (hPairs : Value.readPairs item (text ++ r).length (text ++ r) = some (pairs, rest)) :
    Value.readInline item s = (Value.ofPairs? pairs).map fun table => (table, rest) := by
  obtain ⟨c, t, rfl, hc⟩ := hOpens
  have hClose : c ≠ '\x7d' := ne_of_isOpener hc (by decide)
  rw [Value.readInline, hs]
  split
  · rename_i e
    exact absurd (List.cons.inj e).1 hClose
  · rw [hPairs]
    cases hTable : Value.ofPairs? pairs <;> simp [hTable]

/-- An inline table of written values is written by its pairs with commas between them. -/
theorem spells_inlineTable {room : Nat} {pieces : List WrittenPair} (hne : pieces ≠ [])
    (h : ∀ p ∈ pieces, p.IsGood room) (hKeys : (pieces.map WrittenPair.key).Nodup) :
    Spells (room + 1) (Spelling.inlineTable (pieces.map WrittenPair.spelling))
      (.table (pieces.map WrittenPair.entry)) where
  opens := ⟨'\x7b', _, rfl, by decide⟩
  read := by
    intro r _
    have hTexts : ∀ t ∈ pieces.map WrittenPair.spelling, t ≠ [] := by
      intro t ht
      obtain ⟨p, hp, rfl⟩ := List.mem_map.mp ht
      exact (opens_pair (h p hp).key p.text).ne_nil
    have hLength := length_le_length_intercalate hTexts
    have hOpens : Opens ([',', ' '].intercalate (pieces.map WrittenPair.spelling)) := by
      cases pieces with
      | nil => exact absurd rfl hne
      | cons p pieces => exact (opens_pair (h p List.mem_cons_self).key p.text).intercalate _ _
    have hSkip := (hOpens.append (' ' :: '\x7d' :: r)).skipBlanks_eq
    have hEnough : pieces.length ≤ ([',', ' '].intercalate (pieces.map WrittenPair.spelling)
        ++ ' ' :: '\x7d' :: r).length := by
      rw [List.length_map] at hLength
      rw [List.length_append]
      exact Nat.le_add_right_of_le hLength
    have hPairs := readPairs_intercalate hne h hEnough hSkip
    rw [Spelling.inlineTable, List.cons_append, List.cons_append, List.append_assoc]
    change Value.readInline (Value.read room) (' ' :: (_ ++ ' ' :: '\x7d' :: r)) = _
    rw [readInline_pairs hOpens ((skipBlanks_space _).trans hSkip) hPairs, ofPairs?_read hKeys]
    rfl

end BuildDispatch.Toml
