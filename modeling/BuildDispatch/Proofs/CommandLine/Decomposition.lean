import BuildDispatch.Proofs.CommandLine.Layout
import Mathlib.Data.List.Nodup
import Mathlib.Data.List.Pairwise

/-! The grammar of the command line is unambiguous.  Written options are told apart by what their
first word looks like, the option of a preset in two words by its second; the words behind the
options never look like one.  So an accepted command line has one layout, and `parse_grammar` says
that the reader accepts exactly the words that have one and reads what it asks for. -/

namespace BuildDispatch

theorem Preset.name_injective {p q : Preset} (h : p.name = q.name) : p = q := by
  have hp := named?_eq_some_iff.mpr (rfl : p.name = p.name)
  have hq := named?_eq_some_iff.mpr h
  exact Option.some.inj (hp.symm.trans hq)

namespace CommandLine

theorem Flag.letter_injective {f g : Flag} (h : f.letter = g.letter) : f = g := by
  revert h
  cases f <;> cases g <;> decide

/-! ### One written option -/

namespace WrittenOption

/-- What the first word of a written option looks like. -/
def look : WrittenOption → Dashed
  | .long .verbose => .long (.ofText "verbose") none
  | .long .dryRun => .long (.ofText "dry-run") none
  | .cluster first more => .cluster ((first :: more).map Flag.letter)
  | .preset p true => .long (.ofText "preset") (some (.ofText p.name))
  | .preset _ false => .long (.ofText "preset") none

/-- The words of a written option behind the first. -/
def value : WrittenOption → List Bytes
  | .preset p false => [.ofText p.name]
  | _ => []

/-- A written option begins with a word that looks like an option. -/
theorem words_eq_cons (w : WrittenOption) :
    ∃ first, w.words = first :: w.value ∧ Dashed.ofWord? first = some w.look := by
  cases w with
  | long f => cases f <;> exact ⟨_, rfl, by decide⟩
  | cluster f fs =>
    refine ⟨_, rfl, ?_⟩
    cases f <;> rfl
  | preset p attached =>
    cases attached with
    | true => cases p <;> exact ⟨_, rfl, by decide⟩
    | false =>
      refine ⟨_, rfl, ?_⟩
      rw [look]
      decide

theorem look_ne_separator (w : WrittenOption) : w.look ≠ .separator := by
  cases w with
  | long f => cases f <;> simp [look]
  | cluster f fs => simp [look]
  | preset p attached => cases attached <;> simp [look]

/-- Written options that look alike are the same, unless each has its preset in the next word. -/
theorem eq_of_look_eq {w v : WrittenOption} (h : w.look = v.look) :
    w = v ∨ ∃ p q, w = .preset p false ∧ v = .preset q false := by
  have hDryRun : Bytes.ofText "verbose" ≠ .ofText "dry-run" := by decide
  have hVerbose : Bytes.ofText "preset" ≠ .ofText "verbose" := by decide
  have hPreset : Bytes.ofText "preset" ≠ .ofText "dry-run" := by decide
  cases w with
  | long f =>
    cases v with
    | long g => cases f <;> cases g <;> simp_all [look, hDryRun.symm]
    | cluster g gs => cases f <;> simp [look] at h
    | preset q attached =>
      cases f <;> cases attached <;> simp_all [look, hVerbose.symm, hPreset.symm]
  | cluster f fs =>
    cases v with
    | long g => cases g <;> simp [look] at h
    | cluster g gs =>
      simp only [look, Dashed.cluster.injEq] at h
      have hFlags := List.map_injective_iff.mpr (fun _ _ => Flag.letter_injective) h
      rw [List.cons.injEq] at hFlags
      exact .inl (by rw [hFlags.1, hFlags.2])
    | preset q attached => cases attached <;> simp [look] at h
  | preset p attached =>
    cases v with
    | long g => cases g <;> cases attached <;> simp_all [look]
    | cluster g gs => cases attached <;> simp [look] at h
    | preset q attached' =>
      cases attached <;> cases attached' <;> simp_all [look]
      exact Preset.name_injective (Bytes.ofText_inj h)

/-- A written option ends where its words say, whatever stands behind it. -/
theorem words_append_inj {w v : WrittenOption} {r s : List Bytes}
    (h : w.words ++ r = v.words ++ s) : w = v ∧ r = s := by
  obtain ⟨a, hw, ha⟩ := w.words_eq_cons
  obtain ⟨b, hv, hb⟩ := v.words_eq_cons
  rw [hw, hv, List.cons_append, List.cons_append, List.cons.injEq] at h
  obtain ⟨rfl, hRest⟩ := h
  rcases eq_of_look_eq (Option.some.inj (ha.symm.trans hb)) with rfl | ⟨p, q, rfl, rfl⟩
  · exact ⟨rfl, List.append_cancel_left hRest⟩
  · obtain ⟨hName, rfl⟩ := List.cons.inj hRest
    rw [Preset.name_injective (Bytes.ofText_inj hName)]
    exact ⟨rfl, rfl⟩

end WrittenOption

/-- Where no option is given twice, written options that give the same are one. -/
theorem eq_of_mem_gives {ws : List WrittenOption} (h : (given ws).Nodup) {w v : WrittenOption}
    (hw : w ∈ ws) (hv : v ∈ ws) {x : Opt} (hxw : x ∈ w.gives) (hxv : x ∈ v.gives) : w = v := by
  by_contra hne
  have hSymm : Std.Symm (Function.onFun List.Disjoint WrittenOption.gives) :=
    ⟨fun _ _ hd _ hy hz => hd hz hy⟩
  exact (List.nodup_flatMap.mp h).2.forall hw hv hne hxw hxv

/-! ### All of a layout -/

/-- Words of which the first does not look like an option: there is none, or it is a separator or
may be an action. -/
def EndsOptions (words : List Bytes) : Prop :=
  ∀ d, words.head?.bind Dashed.ofWord? = some d → d = .separator

/-- Written options cannot begin where they end. -/
theorem words_append_not_endsOptions (w : WrittenOption) (r : List Bytes) :
    ¬ EndsOptions (w.words ++ r) := by
  intro h
  obtain ⟨first, hw, hLook⟩ := w.words_eq_cons
  rw [hw] at h
  exact w.look_ne_separator (h w.look hLook)

/-- Written options are read off the front of words in one way. -/
theorem wordsOf_append_inj {ws vs : List WrittenOption} {r s : List Bytes} (hr : EndsOptions r)
    (hs : EndsOptions s) (h : wordsOf ws ++ r = wordsOf vs ++ s) : ws = vs ∧ r = s := by
  -- If one side has options left and the other has none, the latter's rest would begin with an
  -- option.
  induction ws generalizing vs with
  | nil =>
    cases vs with
    | nil => exact ⟨rfl, h⟩
    | cons v vs =>
      rw [wordsOf, wordsOf, List.flatMap_nil, List.nil_append, List.flatMap_cons,
        List.append_assoc] at h
      exact absurd (h ▸ hr) (words_append_not_endsOptions v _)
  | cons w ws ih =>
    cases vs with
    | nil =>
      rw [wordsOf, wordsOf, List.flatMap_nil, List.nil_append, List.flatMap_cons,
        List.append_assoc] at h
      exact absurd (h ▸ hs) (words_append_not_endsOptions w _)
    | cons v vs =>
      rw [wordsOf, wordsOf, List.flatMap_cons, List.flatMap_cons, List.append_assoc,
        List.append_assoc] at h
      obtain ⟨rfl, hRest⟩ := WrittenOption.words_append_inj h
      obtain ⟨rfl, rfl⟩ := ih hRest
      exact ⟨rfl, rfl⟩

namespace Layout

/-- The words of a layout behind its options. -/
def tail (l : Layout) : List Bytes :=
  (if l.hasSeparator then [[dash, dash]] else []) ++ .ofText l.action :: l.rest

theorem words_eq (l : Layout) : l.words = wordsOf l.options ++ l.tail := by
  rw [words, tail, List.append_assoc]

namespace WellFormed

variable {l l' : Layout}

/-- What stands behind the options begins with a separator if there is one, and with a word that is
no option otherwise. -/
theorem look_tail (h : l.WellFormed) :
    l.tail.head?.bind Dashed.ofWord? = if l.hasSeparator then some .separator else none := by
  cases hSep : l.hasSeparator with
  | true => simp [tail, hSep, Dashed.ofWord?]
  | false =>
    have hAction : Dashed.ofWord? (.ofText l.action) = none := by
      refine Dashed.ofWord?_eq_none_iff.mpr ((h.plain hSep).imp (fun e => ?_) id)
      rw [e]
      decide
    simp [tail, hSep, hAction]

theorem endsOptions_tail (h : l.WellFormed) : EndsOptions l.tail := by
  intro d hd
  rw [h.look_tail] at hd
  split at hd <;> simp_all

/-- A command line has at most one layout. -/
theorem eq_of_words (h : l.WellFormed) (h' : l'.WellFormed) (e : l'.words = l.words) : l' = l := by
  rw [words_eq, words_eq] at e
  obtain ⟨hOptions, hTail⟩ := wordsOf_append_inj h'.endsOptions_tail h.endsOptions_tail e
  have hLook := h'.look_tail
  rw [hTail, h.look_tail] at hLook
  have hSep : l'.hasSeparator = l.hasSeparator := by
    cases hl : l.hasSeparator <;> cases hl' : l'.hasSeparator <;> simp [hl, hl'] at hLook ⊢
  rw [tail, tail, hSep, List.append_cancel_left_eq, List.cons.injEq] at hTail
  obtain ⟨hAction, hRest⟩ := hTail
  have hAction := Bytes.ofText_inj hAction
  cases l
  cases l'
  simp_all

/-- The preset that is read is the one that is written. -/
theorem findSome?_preset?_eq_some_iff (h : l.WellFormed) {p : Preset} :
    l.options.findSome? WrittenOption.preset? = some p ↔
      ∃ isAttached, .preset p isAttached ∈ l.options := by
  have named : ∀ {w : WrittenOption} {q : Preset}, w.preset? = some q →
      ∃ isAttached, w = .preset q isAttached := by
    intro w q hw
    cases w with
    | preset q' attached =>
      cases hw
      exact ⟨attached, rfl⟩
    | long | cluster => cases hw
  constructor
  · intro hFound
    obtain ⟨w, hw, hNamed⟩ := List.exists_of_findSome?_eq_some hFound
    obtain ⟨attached, rfl⟩ := named hNamed
    exact ⟨attached, hw⟩
  · rintro ⟨attached, hMem⟩
    have hGiven : Opt.preset ∈ given l.options :=
      List.mem_flatMap.mpr ⟨_, hMem, by simp [WrittenOption.gives]⟩
    have hSome := isSome_findSome?_preset? l.options
    rw [decide_eq_true hGiven] at hSome
    obtain ⟨q, hq⟩ := Option.isSome_iff_exists.mp hSome
    obtain ⟨w, hw, hNamed⟩ := List.exists_of_findSome?_eq_some hq
    obtain ⟨attached', rfl⟩ := named hNamed
    have hOne := eq_of_mem_gives h.nodup hw hMem (x := .preset) (by simp [WrittenOption.gives])
      (by simp [WrittenOption.gives])
    rw [hq, (WrittenOption.preset.inj hOne).1]

end WellFormed

end Layout

/-! ### The reader -/

/-- The words have the layout `l` and no other, and the invocation `i` is what it asks for. -/
structure Asks (words : List Bytes) (l : Layout) (i : Invocation) : Prop where
  wellFormed : l.WellFormed
  words_eq : l.words = words
  unique : ∀ l' : Layout, l'.WellFormed → l'.words = words → l' = l
  verbose : i.verbose = true ↔ .verbose ∈ l.gives
  dryRun : i.dryRun = true ↔ .dryRun ∈ l.gives
  preset : ∀ p, i.preset = some p ↔ ∃ isAttached, .preset p isAttached ∈ l.options
  tokens : i.tokens = .ofText l.action :: l.rest

/-- A layout asks for one invocation. -/
theorem Asks.eq {words words' : List Bytes} {l : Layout} {i j : Invocation} (h : Asks words l i)
    (h' : Asks words' l j) : i = j := by
  have hVerbose := Bool.eq_iff_iff.mpr (h.verbose.trans h'.verbose.symm)
  have hDryRun := Bool.eq_iff_iff.mpr (h.dryRun.trans h'.dryRun.symm)
  have hPreset : i.preset = j.preset :=
    Option.ext fun p => (h.preset p).trans (h'.preset p).symm
  have hTokens := h.tokens.trans h'.tokens.symm
  rw [Invocation.tokens, Invocation.tokens, List.cons.injEq] at hTokens
  cases i
  cases j
  simp_all

/-- A well-formed layout of words is asked for by them. -/
theorem Layout.WellFormed.asks {l : Layout} (h : l.WellFormed) : Asks l.words l l.invocation where
  wellFormed := h
  words_eq := rfl
  unique := fun _ h' e => h.eq_of_words h' e
  verbose := decide_eq_true_iff
  dryRun := decide_eq_true_iff
  preset := fun _ => h.findSome?_preset?_eq_some_iff
  tokens := rfl

/-- The reader accepts exactly the words that have a well-formed layout, which is then the only one,
and reads exactly what it asks for. -/
theorem parse_grammar (words : List Bytes) :
    ((∃ i, parse words = .ok i) ↔ ∃ l : Layout, l.WellFormed ∧ l.words = words) ∧
      ∀ i, parse words = .ok i ↔ ∃ l, Asks words l i := by
  refine ⟨⟨?_, ?_⟩, fun i => ⟨?_, ?_⟩⟩
  · rintro ⟨i, hParse⟩
    obtain ⟨l, hWellFormed, hWords, -⟩ := exists_layout_of_parse hParse
    exact ⟨l, hWellFormed, hWords⟩
  · rintro ⟨l, hWellFormed, rfl⟩
    exact ⟨l.invocation, parse_words hWellFormed⟩
  · intro hParse
    obtain ⟨l, hWellFormed, rfl, rfl⟩ := exists_layout_of_parse hParse
    exact ⟨l, hWellFormed.asks⟩
  · rintro ⟨l, hAsks⟩
    obtain rfl := hAsks.eq hAsks.wellFormed.asks
    rw [← hAsks.words_eq]
    exact parse_words hAsks.wellFormed

/-- Behind a separator an option is an action, and so is a second separator. -/
example : parse [.ofText "-vn", .ofText "--", .ofText "--", .ofText "-v"] =
    .ok ⟨true, true, none, .ofText "--", [.ofText "-v"]⟩ := by
  decide

end CommandLine

end BuildDispatch
