import BuildDispatch.Proofs.CommandLine.Options

/-! The reader of command lines and their layouts.  A command line that is accepted has a
well-formed layout that asks for what was read, and every well-formed layout is accepted
(`exists_layout_of_parse` and `parse_words`). -/

namespace BuildDispatch

namespace CommandLine

/-! ### Words with a dash -/

namespace Dashed

/-- The word of a word with a dash. -/
def word : Dashed → Bytes
  | .separator => [dash, dash]
  | .long name none => dash :: dash :: name
  | .long name (some value) => dash :: dash :: (name ++ equalsSign :: value)
  | .cluster letters => dash :: letters

theorem append_of_splitAtEquals {w name value : Bytes}
    (h : splitAtEquals w = (name, some value)) : name ++ equalsSign :: value = w := by
  unfold splitAtEquals at h
  split at h
  · cases h
  · rename_i b rest hDrop
    have hb : b = equalsSign := by
      have := List.head?_dropWhile_not (· != equalsSign) w
      simpa [hDrop] using this
    subst hb
    cases h
    rw [← hDrop, List.takeWhile_append_dropWhile]

theorem eq_of_splitAtEquals {w name : Bytes} (h : splitAtEquals w = (name, none)) : name = w := by
  unfold splitAtEquals at h
  split at h
  · cases h
    rfl
  · cases h

/-- A word with a dash is put together again from its parts. -/
theorem word_of_ofWord? {w : Bytes} {d : Dashed} (h : ofWord? w = some d) : d.word = w := by
  unfold ofWord? at h
  split at h
  · rename_i a b r
    split at h
    · rename_i ha
      subst ha
      split at h
      · rename_i hb
        subst hb
        split at h
        · rename_i hr
          cases h
          rw [List.isEmpty_iff.mp hr]
          rfl
        · cases hSplit : splitAtEquals r with
          | mk name value =>
            rw [hSplit] at h
            cases h
            cases value with
            | none => rw [word, eq_of_splitAtEquals hSplit]
            | some value => rw [word, append_of_splitAtEquals hSplit]
      · cases h
        rfl
    · cases h
  · cases h

theorem letters_ne_nil {w letters : Bytes} (h : ofWord? w = some (.cluster letters)) :
    letters ≠ [] := by
  rintro rfl
  have hw := word_of_ofWord? h
  subst hw
  cases h

/-- A word does not look like an option if it is a lone dash or does not begin with one. -/
theorem ofWord?_eq_none_iff {w : Bytes} :
    ofWord? w = none ↔ w = [dash] ∨ w.head? ≠ some dash := by
  match w with
  | [] => simp [ofWord?]
  | [a] => by_cases h : a = dash <;> simp [ofWord?, h]
  | a :: b :: r =>
    by_cases ha : a = dash
    · by_cases hb : b = dash
      · by_cases hr : r.isEmpty = true <;> simp [ofWord?, ha, hb, hr]
      · simp [ofWord?, ha, hb]
    · simp [ofWord?, ha]

end Dashed

theorem LongName.ofBytes?_eq_some {name : Bytes} {n : LongName} (h : ofBytes? name = some n) :
    name = .ofText n.name := by
  unfold ofBytes? at h
  have hName := List.find?_some h
  exact of_decide_eq_true hName

/-! ### Long options -/

/-- A preset option whose value is the next word. -/
theorem reads_awaited (o : Options) : Reads o [.ofText "--preset"] o .awaited :=
  ⟨[], rfl, o.admits_nil, o.extended_nil.symm⟩

/-- A long option that is taken in is one of the options, after what was pending. -/
theorem reads_of_giveLong {o o' : Options} {pending p : Pending} {name : Bytes}
    {value : Option Bytes} (h : giveLong o pending name value = .ok (o', p)) :
    ∃ o₁, o.settle pending = .ok o₁ ∧ Reads o₁ [(Dashed.long name value).word] o' p := by
  have flag : ∀ f : Flag, (do return (← (← o.settle pending).giveFlag f, Pending.nothing)) =
      Except.ok (ε := Refusal) (o', p) →
      ∃ o₁, o.settle pending = .ok o₁ ∧ Reads o₁ (WrittenOption.long f).words o' p := by
    intro f h
    obtain ⟨o₁, h₁, h⟩ := bind_eq_ok_iff.mp h
    obtain ⟨o₂, h₂, h⟩ := bind_eq_ok_iff.mp h
    cases h
    obtain ⟨hAdmits, rfl⟩ := Options.giveFlag_eq_ok.mp h₂
    exact ⟨o₁, h₁, .single hAdmits⟩
  unfold giveLong at h
  split at h
  · cases h
  · cases h
  · cases h
  · cases h
  · rename_i hName
    rw [LongName.ofBytes?_eq_some hName]
    exact flag .verbose h
  · rename_i hName
    rw [LongName.ofBytes?_eq_some hName]
    exact flag .dryRun h
  · obtain ⟨_, _, h⟩ := bind_eq_ok_iff.mp h
    cases h
  · rename_i v hName
    obtain ⟨o₁, h₁, h⟩ := bind_eq_ok_iff.mp h
    obtain ⟨o₂, h₂, h⟩ := bind_eq_ok_iff.mp h
    cases h
    obtain ⟨preset, rfl, hAdmits, rfl⟩ := (Options.givePreset_eq_ok true).mp h₂
    have hWord : (WrittenOption.preset preset true).words =
        [(Dashed.long (.ofText LongName.preset.name) (some (.ofText preset.name))).word] := by
      cases preset <;> decide
    rw [LongName.ofBytes?_eq_some hName, ← hWord]
    exact ⟨o₁, h₁, .single hAdmits⟩
  · rename_i hName
    obtain ⟨o₁, h₁, h⟩ := bind_eq_ok_iff.mp h
    cases h
    rw [LongName.ofBytes?_eq_some hName]
    exact ⟨_, h₁, reads_awaited _⟩

theorem reads_of_giveCluster {o o' : Options} {pending p : Pending} {letters : Bytes}
    (hne : letters ≠ []) (h : giveCluster o pending (Utf8.chunks letters) = .ok (o', p)) :
    ∃ o₁, o.settle pending = .ok o₁ ∧ Reads o₁ [(Dashed.cluster letters).word] o' p := by
  have hChunks := Utf8.chunks_ne_nil hne
  obtain ⟨o₁, h₁⟩ := settled_of_giveCluster hChunks h
  rw [giveCluster_settled hChunks h₁] at h
  obtain ⟨fs, hfs, rfl, hAdmits, rfl⟩ := giveCluster_eq_ok h
  have hLetters : letters = fs.map Flag.letter := by
    rw [← flatMap_bytes_flagChunks, ← hfs, Utf8.flatMap_bytes_chunks]
  subst hLetters
  cases fs with
  | nil => exact absurd rfl hne
  | cons f fs =>
    refine ⟨o₁, h₁, ?_⟩
    rw [← Options.extended_cluster]
    exact .single (Options.admits_cluster.mpr hAdmits)

/-! ### From words to a layout -/

/-- The invocation that options and an action make. -/
def Options.invocation (o : Options) (action : Bytes) (trailing : List Bytes) : Invocation :=
  ⟨o.verbose, o.dryRun, o.preset, action, trailing⟩

/-- After the options `o`, the words are a layout that asks for the invocation. -/
def Spells (o : Options) (words : List Bytes) (i : Invocation) : Prop :=
  ∃ l : Layout, l.words = words ∧ o.Admits l.options ∧
    (l.hasSeparator = false → Layout.IsPlainAction l.action) ∧
    i = (o.extended l.options).invocation (.ofText l.action) l.rest

/-- Options that were read stand in front of the layout of the words behind them. -/
theorem Reads.spells {o o' : Options} {front words : List Bytes} {p : Pending} {i : Invocation}
    (h : Reads o front o' p) (hSpells : Spells o' (p.words ++ words) i) :
    Spells o (front ++ words) i := by
  obtain ⟨ws, rfl, hws, rfl⟩ := h
  obtain ⟨l, hl, hAdmits, hPlain, rfl⟩ := hSpells
  refine ⟨{ l with options := ws ++ l.options }, ?_, ?_, hPlain, ?_⟩
  · rw [List.append_assoc, ← hl]
    simp [Layout.words, wordsOf, List.append_assoc]
  · exact Options.admits_append.mpr ⟨hws, hAdmits⟩
  · rw [Options.extended_append]

/-- An action that may stand where it does ends a layout. -/
theorem spells_withAction {o : Options} {pending : Pending} {action : Bytes}
    {trailing : List Bytes} {i : Invocation} (hasSeparator : Bool)
    (hPlain : hasSeparator = false → Dashed.ofWord? action = none)
    (h : withAction o pending action trailing = .ok i) :
    Spells o (pending.words ++ (if hasSeparator then [[dash, dash]] else []) ++ action :: trailing)
      i := by
  unfold withAction at h
  split at h
  · cases h
  · rename_i hText
    obtain ⟨o₁, h₁, h⟩ := bind_eq_ok_iff.mp h
    cases h
    obtain ⟨s, hs⟩ := Option.ne_none_iff_exists'.mp (mt Option.isNone_iff_eq_none.mpr hText)
    obtain rfl := Bytes.text?_eq_some_iff.mp hs
    rw [List.append_assoc]
    apply (reads_of_settle h₁).spells
    refine ⟨⟨[], hasSeparator, s, trailing⟩, ?_, o₁.admits_nil, fun hSep => ?_, ?_⟩
    · simp [Layout.words, Pending.words]
    · refine (Dashed.ofWord?_eq_none_iff.mp (hPlain hSep)).imp (fun e => ?_) id
      exact Bytes.ofText_inj e
    · rw [Options.extended_nil]
      rfl

/-- An accepted command line is spelled by a layout. -/
theorem spells_of_parseFrom {o : Options} {pending : Pending} {words : List Bytes} {i : Invocation}
    (h : parseFrom o pending words = .ok i) : Spells o (pending.words ++ words) i := by
  induction o, pending, words using parseFrom.induct with
  | case1 o pending =>
    obtain ⟨_, _, h⟩ := bind_eq_ok_iff.mp h
    cases h
  | case2 o pending word hWord =>
    simp only [parseFrom, hWord] at h
    obtain ⟨_, _, h⟩ := bind_eq_ok_iff.mp h
    cases h
  | case3 o pending word hWord action trailing =>
    simp only [parseFrom, hWord] at h
    have := spells_withAction true (by simp) h
    rw [← Dashed.word_of_ofWord? hWord, Dashed.word]
    simpa using this
  | case4 o pending word trailing name value hWord ih =>
    simp only [parseFrom, hWord] at h
    obtain ⟨⟨o', p⟩, hGive, h⟩ := bind_eq_ok_iff.mp h
    obtain ⟨o₁, h₁, hReads⟩ := reads_of_giveLong hGive
    rw [← Dashed.word_of_ofWord? hWord, List.append_cons]
    exact ((reads_of_settle h₁).trans hReads).spells (ih _ _ h)
  | case5 o pending word trailing letters hWord ih =>
    simp only [parseFrom, hWord] at h
    obtain ⟨⟨o', p⟩, hGive, h⟩ := bind_eq_ok_iff.mp h
    obtain ⟨o₁, h₁, hReads⟩ := reads_of_giveCluster (Dashed.letters_ne_nil hWord) hGive
    rw [← Dashed.word_of_ofWord? hWord, List.append_cons]
    exact ((reads_of_settle h₁).trans hReads).spells (ih _ _ h)
  | case6 o word trailing hWord ih =>
    simp only [parseFrom, hWord] at h
    exact ih h
  | case7 o pending word trailing hWord hPending =>
    simp only [parseFrom, hWord, if_neg hPending] at h
    have := spells_withAction false (fun _ => hWord) h
    simpa using this

/-- An accepted command line has a layout that asks for what was read. -/
theorem exists_layout_of_parse {words : List Bytes} {i : Invocation} (h : parse words = .ok i) :
    ∃ l : Layout, l.WellFormed ∧ l.words = words ∧ l.invocation = i := by
  obtain ⟨l, hWords, hAdmits, hPlain, rfl⟩ := spells_of_parseFrom h
  refine ⟨l, ⟨Options.admits_initial.mp hAdmits, hPlain⟩, hWords, ?_⟩
  simp [Layout.invocation, Options.invocation, Options.extended, Options.initial, Layout.gives]

/-! ### From a layout to its words -/

/-- A pending value that is a preset may be settled at once. -/
theorem parseFrom_settled {o o₁ : Options} {pending : Pending} (h : o.settle pending = .ok o₁)
    (words : List Bytes) : parseFrom o pending words = parseFrom o₁ .nothing words := by
  have h₁ : o₁.settle .nothing = .ok o₁ := rfl
  have hAwaited : pending ≠ .awaited := by
    rintro rfl
    cases h
  have withAction_eq : ∀ action trailing, withAction o pending action trailing =
      withAction o₁ .nothing action trailing := by
    intro action trailing
    simp only [withAction, h, h₁]
  cases words with
  | nil => simp only [parseFrom, withoutAction, h, h₁]
  | cons word r =>
    cases hWord : Dashed.ofWord? word with
    | none => simp [parseFrom, hWord, hAwaited, withAction_eq]
    | some d =>
      cases d with
      | separator =>
        cases r with
        | nil => simp only [parseFrom, hWord, withoutAction, h, h₁]
        | cons action trailing => simp only [parseFrom, hWord, withAction_eq]
      | long name value =>
        have hGive : giveLong o pending name value = giveLong o₁ .nothing name value := by
          unfold giveLong
          simp only [h, h₁]
        simp only [parseFrom, hWord, hGive]
      | cluster letters =>
        have hne := Utf8.chunks_ne_nil (Dashed.letters_ne_nil hWord)
        simp only [parseFrom, hWord, giveCluster_settled hne h]

/-- A written option that fits is taken in, whatever follows. -/
theorem parseFrom_written {o : Options} {w : WrittenOption} (h : o.Admits [w])
    (words : List Bytes) :
    parseFrom o .nothing (w.words ++ words) = parseFrom (o.extended [w]) .nothing words := by
  cases w with
  | long f =>
    have hGive := Options.giveFlag_eq_ok.mpr ⟨h, rfl⟩
    have hWord : parseFrom o .nothing ((WrittenOption.long f).words ++ words) = (do
        let read ← (do return (← o.giveFlag f, Pending.nothing))
        parseFrom read.1 read.2 words) := by
      cases f <;> rfl
    rw [hWord, hGive]
    rfl
  | cluster f fs =>
    have hWord : Dashed.ofWord? (dash :: (f :: fs).map Flag.letter) =
        some (.cluster ((f :: fs).map Flag.letter)) := by
      cases f <;> rfl
    rw [WrittenOption.words, List.singleton_append]
    simp only [parseFrom, hWord]
    rw [chunks_letters, giveCluster_flagChunks (Options.admits_cluster.mp h),
      Options.extended_cluster]
    rfl
  | preset p attached =>
    have hGive := (Options.givePreset_eq_ok attached).mpr ⟨p, rfl, h, rfl⟩
    cases attached with
    | true =>
      have hWord : parseFrom o .nothing ((WrittenOption.preset p true).words ++ words) =
          (do
            let read ← (do return (← o.givePreset (.ofText p.name), Pending.nothing))
            parseFrom read.1 read.2 words) := by
        cases p <;> rfl
      rw [hWord, hGive]
      rfl
    | false =>
      have hWord : parseFrom o .nothing ((WrittenOption.preset p false).words ++ words) =
          parseFrom o (.value (.ofText p.name)) words := by
        cases p <;> rfl
      have hSettle : o.settle (.value (.ofText p.name)) = .ok (o.extended [.preset p false]) :=
        hGive
      rw [hWord]
      exact parseFrom_settled hSettle words

theorem parseFrom_options {o : Options} {ws : List WrittenOption} (h : o.Admits ws)
    (words : List Bytes) :
    parseFrom o .nothing (wordsOf ws ++ words) = parseFrom (o.extended ws) .nothing words := by
  induction ws generalizing o with
  | nil => simp
  | cons w ws ih =>
    have hBoth : o.Admits ([w] ++ ws) := h
    obtain ⟨hFirst, hMore⟩ := Options.admits_append.mp hBoth
    rw [wordsOf, List.flatMap_cons, List.append_assoc, parseFrom_written hFirst, ih hMore,
      ← Options.extended_append]
    rfl

/-- An action that may stand where it does is read as such. -/
theorem parseFrom_action {o : Options} {hasSeparator : Bool} {action : String}
    (h : hasSeparator = false → Layout.IsPlainAction action) (rest : List Bytes) :
    parseFrom o .nothing ((if hasSeparator then [[dash, dash]] else []) ++ .ofText action :: rest) =
      .ok (o.invocation (.ofText action) rest) := by
  have hAction : withAction o .nothing (.ofText action) rest =
      .ok (o.invocation (.ofText action) rest) := by
    simp only [withAction, Bytes.text?_ofText]
    rfl
  cases hasSeparator with
  | true => exact hAction
  | false =>
    have hWord : Dashed.ofWord? (.ofText action) = none := by
      refine Dashed.ofWord?_eq_none_iff.mpr ((h rfl).imp (fun e => ?_) id)
      rw [e]
      decide
    simp only [Bool.false_eq_true, if_false, List.nil_append, parseFrom, hWord, hAction]
    rfl

/-- A well-formed layout is accepted and read as what it asks for. -/
theorem parse_words {l : Layout} (h : l.WellFormed) : parse l.words = .ok l.invocation := by
  have hAdmits := Options.admits_initial.mpr h.nodup
  rw [parse, Layout.words, List.append_assoc, parseFrom_options hAdmits,
    parseFrom_action h.plain]
  simp [Layout.invocation, Options.invocation, Options.extended, Options.initial, Layout.gives]

end CommandLine

end BuildDispatch
