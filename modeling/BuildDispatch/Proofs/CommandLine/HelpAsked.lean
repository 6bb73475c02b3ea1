import BuildDispatch.Proofs.CommandLine.Layout

/-! Command lines that ask for help.  Help is shown exactly where options that fit are followed by
`--help`, or by a cluster in which an `h` stands behind flags that are new.  Nothing behind that is
looked at, not even the other letters of the cluster. -/

namespace BuildDispatch

namespace CommandLine

namespace Options

variable {o : Options} {form : HelpForm}

/-- A word that asks for help after these options, whatever stands behind the letter in a
cluster. -/
inductive AsksForHelp (o : Options) : HelpForm → Bytes → Prop
  | long : AsksForHelp o .long (.ofText "--help")
  | short (fs : List Flag) (more : Bytes) (admits : o.Admits (longFlags fs)) :
    AsksForHelp o .short (dash :: (fs.map Flag.letter ++ 0x68 :: more))

/-! ### Steps that do not show help -/

theorem givePreset_ne_help (word : Bytes) : o.givePreset word ≠ .error (.help form) := by
  intro h
  unfold givePreset at h
  repeat' split at h
  all_goals cases h

theorem giveFlag_ne_help (f : Flag) : o.giveFlag f ≠ .error (.help form) := by
  cases f with
  | verbose => cases h : o.verbose <;> simp [giveFlag, giveVerbose, h]
  | dryRun => cases h : o.dryRun <;> simp [giveFlag, giveDryRun, h]

theorem settle_ne_help (pending : Pending) : o.settle pending ≠ .error (.help form) := by
  cases pending with
  | nothing | awaited => exact fun h => by cases h
  | value word => exact givePreset_ne_help word

/-- If help is shown after what was pending has been settled, settling it went well. -/
theorem settled_of_bind_eq_help {α : Type} {pending : Pending} {f : Options → Except Refusal α}
    (h : o.settle pending >>= f = .error (.help form)) :
    ∃ o₁, o.settle pending = .ok o₁ ∧ f o₁ = .error (.help form) := by
  rcases bind_eq_error h with h | hSettled
  · exact absurd h (settle_ne_help pending)
  · exact hSettled

end Options

theorem withoutAction_ne_help {o : Options} {pending : Pending} {form : HelpForm} :
    withoutAction o pending ≠ .error (.help form) := by
  intro h
  obtain ⟨o₁, -, h⟩ := Options.settled_of_bind_eq_help h
  split at h <;> cases h

theorem withAction_ne_help {o : Options} {pending : Pending} {action : Bytes}
    {trailing : List Bytes} {form : HelpForm} :
    withAction o pending action trailing ≠ .error (.help form) := by
  intro h
  unfold withAction at h
  split at h
  · cases h
  · obtain ⟨o₁, -, h⟩ := Options.settled_of_bind_eq_help h
    cases h

/-! ### Steps that show help -/

/-- The only long option that asks for help is the one that is named so. -/
theorem giveLong_eq_help {o : Options} {pending : Pending} {name : Bytes} {value : Option Bytes}
    {form : HelpForm} (h : giveLong o pending name value = .error (.help form)) :
    form = .long ∧ (Dashed.long name value).word = .ofText "--help" ∧
      ∃ o₁, o.settle pending = .ok o₁ := by
  have flag : ∀ f : Flag, (do return (← (← o.settle pending).giveFlag f, Pending.nothing)) ≠
      Except.error (α := Options × Pending) (.help form) := by
    intro f h
    obtain ⟨o₁, -, h⟩ := Options.settled_of_bind_eq_help h
    rcases bind_eq_error h with h | ⟨o₂, -, h⟩
    · exact Options.giveFlag_ne_help f h
    · cases h
  unfold giveLong at h
  split at h
  · cases h
  · cases h
  · cases h
  · cases h
  · exact absurd h (flag .verbose)
  · exact absurd h (flag .dryRun)
  · rename_i hName
    obtain ⟨o₁, h₁, h⟩ := Options.settled_of_bind_eq_help h
    cases h
    rw [LongName.ofBytes?_eq_some hName]
    exact ⟨rfl, by decide, o₁, h₁⟩
  · obtain ⟨o₁, -, h⟩ := Options.settled_of_bind_eq_help h
    rcases bind_eq_error h with h | ⟨o₂, -, h⟩
    · exact absurd h (Options.givePreset_ne_help _)
    · cases h
  · obtain ⟨o₁, -, h⟩ := Options.settled_of_bind_eq_help h
    cases h

/-- The letter that asks for help, as it is read. -/
def helpChunk : Utf8.Chunk := .scalar 'h'

/-- Of the parts of a cluster, a flag is taken in, an `h` asks for help, and all else is not
known. -/
theorem giveCluster_cons_eq_help {o : Options} {pending : Pending} {c : Utf8.Chunk}
    {cs : List Utf8.Chunk} {form : HelpForm}
    (h : giveCluster o pending (c :: cs) = .error (.help form)) :
    ∃ o₁, o.settle pending = .ok o₁ ∧
      ((form = .short ∧ c = helpChunk) ∨
        ∃ (f : Flag) (o₂ : Options), c = .scalar f.char ∧ o₁.giveFlag f = .ok o₂ ∧
          giveCluster o₂ .nothing cs = .error (.help form)) := by
  have flag : ∀ f : Flag, giveCluster o pending (.scalar f.char :: cs) = .error (.help form) →
      ∃ o₁, o.settle pending = .ok o₁ ∧ ∃ o₂, o₁.giveFlag f = .ok o₂ ∧
        giveCluster o₂ .nothing cs = .error (.help form) := by
    intro f h
    rw [giveCluster_flag] at h
    obtain ⟨o₁, h₁, h⟩ := Options.settled_of_bind_eq_help h
    rcases bind_eq_error h with h | ⟨o₂, h₂, h⟩
    · exact absurd h (Options.giveFlag_ne_help f)
    · exact ⟨o₁, h₁, o₂, h₂, h⟩
  cases c with
  | broken b => cases h
  | scalar c =>
    by_cases hv : c = 'v'
    · subst hv
      obtain ⟨o₁, h₁, o₂, h₂, h⟩ := flag .verbose h
      exact ⟨o₁, h₁, .inr ⟨.verbose, o₂, rfl, h₂, h⟩⟩
    by_cases hn : c = 'n'
    · subst hn
      obtain ⟨o₁, h₁, o₂, h₂, h⟩ := flag .dryRun h
      exact ⟨o₁, h₁, .inr ⟨.dryRun, o₂, rfl, h₂, h⟩⟩
    rw [giveCluster, if_neg hv, if_neg hn] at h
    split at h
    · rename_i hHelp
      obtain ⟨o₁, h₁, h⟩ := Options.settled_of_bind_eq_help h
      cases h
      exact ⟨o₁, h₁, .inl ⟨rfl, by rw [hHelp]; rfl⟩⟩
    · cases h

/-- A cluster that asks for help has flags in front of the letter that does, each of them new. -/
theorem giveCluster_eq_help {o : Options} {cs : List Utf8.Chunk} {form : HelpForm}
    (h : giveCluster o .nothing cs = .error (.help form)) :
    form = .short ∧ ∃ fs more, cs = flagChunks fs ++ helpChunk :: more ∧
      o.Admits (longFlags fs) := by
  induction cs generalizing o with
  | nil => cases h
  | cons c cs ih =>
    obtain ⟨o₁, h₁, ⟨rfl, rfl⟩ | ⟨f, o₂, rfl, h₂, h⟩⟩ := giveCluster_cons_eq_help h
    · exact ⟨rfl, [], cs, rfl, o.admits_nil⟩
    · cases h₁
      obtain ⟨hFlag, rfl⟩ := Options.giveFlag_eq_ok.mp h₂
      obtain ⟨rfl, fs, more, rfl, hMore⟩ := ih h
      exact ⟨rfl, f :: fs, more, rfl, Options.admits_append.mpr ⟨hFlag, hMore⟩⟩

/-- Flags that are new and an `h` behind them ask for help. -/
theorem giveCluster_help {o : Options} {fs : List Flag} (h : o.Admits (longFlags fs))
    (more : List Utf8.Chunk) :
    giveCluster o .nothing (flagChunks fs ++ helpChunk :: more) = .error (.help .short) := by
  induction fs generalizing o with
  | nil => rfl
  | cons f fs ih =>
    have hBoth : o.Admits ([.long f] ++ longFlags fs) := h
    obtain ⟨hFlag, hMore⟩ := Options.admits_append.mp hBoth
    have hGive := Options.giveFlag_eq_ok.mpr ⟨hFlag, rfl⟩
    rw [flagChunks, List.map_cons, List.cons_append, giveCluster_flag, Options.settle]
    change (do giveCluster (← o.giveFlag f) .nothing (flagChunks fs ++ helpChunk :: more)) = _
    rw [hGive]
    exact ih hMore

theorem flatMap_bytes_helpChunks (fs : List Flag) (more : List Utf8.Chunk) :
    (flagChunks fs ++ helpChunk :: more).flatMap Utf8.Chunk.bytes =
      fs.map Flag.letter ++ 0x68 :: more.flatMap Utf8.Chunk.bytes := by
  rw [List.flatMap_append, flatMap_bytes_flagChunks, List.flatMap_cons]
  rfl

theorem chunks_helpLetters (fs : List Flag) (more : Bytes) :
    Utf8.chunks (fs.map Flag.letter ++ 0x68 :: more) =
      flagChunks fs ++ helpChunk :: Utf8.chunks more := by
  induction fs with
  | nil => exact Utf8.chunks_encodeChar_append 'h' more
  | cons f fs ih =>
    have h := Utf8.chunks_encodeChar_append f.char (fs.map Flag.letter ++ 0x68 :: more)
    rw [encodeChar_char, List.singleton_append, ih] at h
    exact h

theorem asksForHelp_of_giveCluster {o : Options} {pending : Pending} {letters : Bytes}
    {form : HelpForm} (hne : letters ≠ [])
    (h : giveCluster o pending (Utf8.chunks letters) = .error (.help form)) :
    ∃ o₁, o.settle pending = .ok o₁ ∧ o₁.AsksForHelp form (Dashed.cluster letters).word := by
  have hChunks := Utf8.chunks_ne_nil hne
  obtain ⟨c, cs, hCons⟩ := List.exists_cons_of_ne_nil hChunks
  obtain ⟨o₁, h₁, -⟩ := giveCluster_cons_eq_help (hCons ▸ h)
  rw [giveCluster_settled hChunks h₁] at h
  obtain ⟨rfl, fs, more, hcs, hAdmits⟩ := giveCluster_eq_help h
  have hLetters : letters = fs.map Flag.letter ++ 0x68 :: more.flatMap Utf8.Chunk.bytes := by
    rw [← flatMap_bytes_helpChunks, ← hcs, Utf8.flatMap_bytes_chunks]
  refine ⟨o₁, h₁, ?_⟩
  rw [hLetters]
  exact .short fs _ hAdmits

/-! ### Whole command lines -/

/-- After the options `o`, options that fit stand in front of a word that asks for help. -/
def ShowsHelp (o : Options) (words : List Bytes) (form : HelpForm) : Prop :=
  ∃ ws word rest, words = wordsOf ws ++ word :: rest ∧ o.Admits ws ∧
    (o.extended ws).AsksForHelp form word

/-- Options that were read stand in front of the word that asks for help. -/
theorem Reads.showsHelp {o o' : Options} {front words : List Bytes} {p : Pending}
    {form : HelpForm} (h : Reads o front o' p) (hHelp : ShowsHelp o' (p.words ++ words) form) :
    ShowsHelp o (front ++ words) form := by
  obtain ⟨ws, rfl, hws, rfl⟩ := h
  obtain ⟨vs, word, rest, hWords, hvs, hAsks⟩ := hHelp
  refine ⟨ws ++ vs, word, rest, ?_, Options.admits_append.mpr ⟨hws, hvs⟩, ?_⟩
  · rw [List.append_assoc, hWords]
    simp [wordsOf]
  · rw [Options.extended_append]
    exact hAsks

theorem showsHelp_of_asks {o : Options} {form : HelpForm} {word : Bytes}
    (h : o.AsksForHelp form word) (rest : List Bytes) : ShowsHelp o (word :: rest) form := by
  refine ⟨[], word, rest, rfl, o.admits_nil, ?_⟩
  rw [Options.extended_nil]
  exact h

/-- Where help is shown it was asked for. -/
theorem showsHelp_of_parseFrom {o : Options} {pending : Pending} {words : List Bytes}
    {form : HelpForm} (h : parseFrom o pending words = .error (.help form)) :
    ShowsHelp o (pending.words ++ words) form := by
  induction o, pending, words using parseFrom.induct with
  | case1 o pending => exact absurd h withoutAction_ne_help
  | case2 o pending word hWord =>
    simp only [parseFrom, hWord] at h
    exact absurd h withoutAction_ne_help
  | case3 o pending word hWord action trailing =>
    simp only [parseFrom, hWord] at h
    exact absurd h withAction_ne_help
  | case4 o pending word trailing name value hWord ih =>
    simp only [parseFrom, hWord] at h
    rcases bind_eq_error h with hGive | ⟨⟨o', p⟩, hGive, h⟩
    · obtain ⟨rfl, hHelp, o₁, h₁⟩ := giveLong_eq_help hGive
      rw [← Dashed.word_of_ofWord? hWord, hHelp]
      exact (reads_of_settle h₁).showsHelp (showsHelp_of_asks .long trailing)
    · obtain ⟨o₁, h₁, hReads⟩ := reads_of_giveLong hGive
      rw [← Dashed.word_of_ofWord? hWord, List.append_cons]
      exact ((reads_of_settle h₁).trans hReads).showsHelp (ih _ _ h)
  | case5 o pending word trailing letters hWord ih =>
    simp only [parseFrom, hWord] at h
    rcases bind_eq_error h with hGive | ⟨⟨o', p⟩, hGive, h⟩
    · obtain ⟨o₁, h₁, hAsks⟩ := asksForHelp_of_giveCluster (Dashed.letters_ne_nil hWord) hGive
      rw [← Dashed.word_of_ofWord? hWord]
      exact (reads_of_settle h₁).showsHelp (showsHelp_of_asks hAsks trailing)
    · obtain ⟨o₁, h₁, hReads⟩ := reads_of_giveCluster (Dashed.letters_ne_nil hWord) hGive
      rw [← Dashed.word_of_ofWord? hWord, List.append_cons]
      exact ((reads_of_settle h₁).trans hReads).showsHelp (ih _ _ h)
  | case6 o word trailing hWord ih =>
    simp only [parseFrom, hWord] at h
    exact ih h
  | case7 o pending word trailing hWord hPending =>
    simp only [parseFrom, hWord, if_neg hPending] at h
    exact absurd h withAction_ne_help

/-- Where a word asks for help it is shown, whatever follows. -/
theorem parseFrom_asksForHelp {o : Options} {form : HelpForm} {word : Bytes}
    (h : o.AsksForHelp form word) (rest : List Bytes) :
    parseFrom o .nothing (word :: rest) = .error (.help form) := by
  cases h with
  | long => rfl
  | short fs more hAdmits =>
    have hWord : Dashed.ofWord? (dash :: (fs.map Flag.letter ++ 0x68 :: more)) =
        some (.cluster (fs.map Flag.letter ++ 0x68 :: more)) := by
      cases fs with
      | nil => rfl
      | cons f fs => cases f <;> rfl
    simp only [parseFrom, hWord, chunks_helpLetters, giveCluster_help hAdmits]
    rfl

/-- Help is shown exactly for options that fit and a word behind them that asks for it. -/
theorem parse_eq_help_iff {words : List Bytes} {form : HelpForm} :
    parse words = .error (.help form) ↔ ShowsHelp .initial words form := by
  constructor
  · exact showsHelp_of_parseFrom
  · rintro ⟨ws, word, rest, rfl, hAdmits, hAsks⟩
    rw [parse, parseFrom_options hAdmits]
    exact parseFrom_asksForHelp hAsks rest

end CommandLine

end BuildDispatch
