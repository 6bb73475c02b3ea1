import BuildDispatch.CommandLine.Grammar
import BuildDispatch.Proofs.Bytes.Utf8
import BuildDispatch.Proofs.Results

/-! Written options and what they give.  Options that are read one after the other add up to
`Options.extended`, and they are accepted exactly when none is given twice, which is `Admits`.  The
inversion lemmas `reads_of_settle` and `giveCluster_eq_ok` say which words were written when a step
of the reader succeeds. -/

namespace BuildDispatch

theorem Preset.named?_eq_some_iff {s : String} {p : Preset} : named? s = some p ↔ s = p.name := by
  constructor
  · intro h
    unfold named? at h
    have hName := List.find?_some h
    exact (eq_of_beq hName).symm
  · rintro rfl
    cases p <;> decide

namespace CommandLine

/-- The options that written options give, in order. -/
abbrev given (ws : List WrittenOption) : List Opt := ws.flatMap WrittenOption.gives

/-- The words of written options. -/
abbrev wordsOf (ws : List WrittenOption) : List Bytes := ws.flatMap WrittenOption.words

/-- Flags by their long names. -/
abbrev longFlags (fs : List Flag) : List WrittenOption := fs.map WrittenOption.long

theorem Flag.opt_ne_preset (f : Flag) : f.opt ≠ .preset := by cases f <;> decide

theorem WrittenOption.preset_mem_gives {w : WrittenOption} :
    Opt.preset ∈ w.gives ↔ w.preset?.isSome = true := by
  cases w with
  | preset p attached => simp [gives, preset?]
  | long f => simpa [gives, preset?] using f.opt_ne_preset.symm
  | cluster f fs => simp [gives, preset?, f.opt_ne_preset.symm, Flag.opt_ne_preset]

/-- A preset is given exactly where one is named. -/
theorem isSome_findSome?_preset? (ws : List WrittenOption) :
    (ws.findSome? WrittenOption.preset?).isSome = decide (.preset ∈ given ws) := by
  rw [Bool.eq_iff_iff, List.findSome?_isSome_iff, decide_eq_true_iff, List.mem_flatMap]
  simp only [WrittenOption.preset_mem_gives]

namespace Options

/-- Whether an option has been taken in. -/
def has (o : Options) : Opt → Bool
  | .verbose => o.verbose
  | .dryRun => o.dryRun
  | .preset => o.preset.isSome

/-- The options after further ones. -/
def extended (o : Options) (ws : List WrittenOption) : Options where
  verbose := o.verbose || decide (.verbose ∈ given ws)
  dryRun := o.dryRun || decide (.dryRun ∈ given ws)
  preset := o.preset.or (ws.findSome? WrittenOption.preset?)

/-- Written options that may follow those taken in: each gives something new. -/
structure Admits (o : Options) (ws : List WrittenOption) : Prop where
  nodup : (given ws).Nodup
  fresh : ∀ x ∈ given ws, o.has x = false

variable {o o' : Options} {ws vs : List WrittenOption}

@[simp] theorem extended_nil (o : Options) : o.extended [] = o := by
  simp [extended]

theorem extended_append (o : Options) (ws vs : List WrittenOption) :
    o.extended (ws ++ vs) = (o.extended ws).extended vs := by
  simp [extended, List.findSome?_append, Bool.or_assoc, Option.or_assoc]

theorem has_extended (o : Options) (ws : List WrittenOption) (x : Opt) :
    (o.extended ws).has x = (o.has x || decide (x ∈ given ws)) := by
  cases x with
  | verbose | dryRun => rfl
  | preset => rw [has, extended, Option.isSome_or, isSome_findSome?_preset?, has]

theorem admits_nil (o : Options) : o.Admits [] := ⟨List.nodup_nil, by simp⟩

theorem admits_append : o.Admits (ws ++ vs) ↔ o.Admits ws ∧ (o.extended ws).Admits vs := by
  constructor
  · rintro ⟨hNodup, hFresh⟩
    simp only [given, List.flatMap_append, List.nodup_append, List.mem_append] at hNodup hFresh
    obtain ⟨hws, hvs, hDisjoint⟩ := hNodup
    refine ⟨⟨hws, fun x hx => hFresh x (.inl hx)⟩, hvs, fun x hx => ?_⟩
    rw [has_extended, hFresh x (.inr hx), Bool.false_or, decide_eq_false_iff_not]
    exact fun hw => hDisjoint x hw x hx rfl
  · rintro ⟨⟨hws, hFresh⟩, hvs, hNew⟩
    simp only [has_extended, Bool.or_eq_false_iff, decide_eq_false_iff_not] at hNew
    refine ⟨?_, fun x hx => ?_⟩
    · rw [given, List.flatMap_append, List.nodup_append]
      exact ⟨hws, hvs, fun x hx y hy e => (hNew y hy).2 (e ▸ hx)⟩
    · rw [given, List.flatMap_append, List.mem_append] at hx
      exact hx.elim (hFresh x) fun hx => (hNew x hx).1

/-- At the start of a command line, options need only differ from each other. -/
theorem admits_initial : Options.initial.Admits ws ↔ (given ws).Nodup :=
  ⟨Admits.nodup, fun h => ⟨h, fun x _ => by cases x <;> rfl⟩⟩

/-! ### Single options -/

/-- The flags of a cluster count as if each stood alone. -/
theorem given_cluster (f : Flag) (fs : List Flag) :
    given [.cluster f fs] = given (longFlags (f :: fs)) := by
  simp only [given, longFlags, List.flatMap_singleton, List.flatMap_map, WrittenOption.gives]
  exact List.map_eq_flatMap

theorem findSome?_preset?_longFlags (fs : List Flag) :
    (longFlags fs).findSome? WrittenOption.preset? = none := by
  simp [longFlags, WrittenOption.preset?]

theorem extended_cluster (o : Options) (f : Flag) (fs : List Flag) :
    o.extended [.cluster f fs] = o.extended (longFlags (f :: fs)) := by
  rw [extended, extended, given_cluster, findSome?_preset?_longFlags]
  rfl

theorem admits_cluster {f : Flag} {fs : List Flag} :
    o.Admits [.cluster f fs] ↔ o.Admits (longFlags (f :: fs)) := by
  constructor
  · rintro ⟨hNodup, hFresh⟩
    rw [given_cluster] at hNodup hFresh
    exact ⟨hNodup, hFresh⟩
  · rintro ⟨hNodup, hFresh⟩
    rw [← given_cluster] at hNodup hFresh
    exact ⟨hNodup, hFresh⟩

theorem admits_long {f : Flag} : o.Admits [.long f] ↔ o.has f.opt = false :=
  ⟨fun h => h.fresh _ (by simp [WrittenOption.gives]),
    fun h => ⟨by simp [WrittenOption.gives], by simpa [WrittenOption.gives] using h⟩⟩

theorem admits_preset {p : Preset} {attached : Bool} :
    o.Admits [.preset p attached] ↔ o.preset = none := by
  constructor
  · intro h
    have := h.fresh .preset (by simp [WrittenOption.gives])
    simpa [has] using this
  · intro h
    exact ⟨by simp [WrittenOption.gives], by simp [WrittenOption.gives, has, h]⟩

/-- Takes in a flag. -/
def giveFlag (o : Options) : Flag → Except Refusal Options
  | .verbose => o.giveVerbose
  | .dryRun => o.giveDryRun

theorem giveFlag_eq_ok {f : Flag} :
    o.giveFlag f = .ok o' ↔ o.Admits [.long f] ∧ o' = o.extended [.long f] := by
  rw [admits_long]
  cases f with
  | verbose =>
    cases h : o.verbose <;>
      simp [giveFlag, giveVerbose, has, Flag.opt, h, extended, WrittenOption.gives,
        WrittenOption.preset?, eq_comm]
  | dryRun =>
    cases h : o.dryRun <;>
      simp [giveFlag, giveDryRun, has, Flag.opt, h, extended, WrittenOption.gives,
        WrittenOption.preset?, eq_comm]

theorem givePreset_eq_ok {word : Bytes} (attached : Bool) :
    o.givePreset word = .ok o' ↔
      ∃ p : Preset, word = .ofText p.name ∧ o.Admits [.preset p attached] ∧
        o' = o.extended [.preset p attached] := by
  simp only [admits_preset]
  constructor
  · intro h
    unfold givePreset at h
    split at h
    · cases h
    · rename_i hNone
      split at h
      · cases h
      · split at h
        · rename_i p hp
          obtain ⟨s, hs, hName⟩ := Option.bind_eq_some_iff.mp hp
          rw [Preset.named?_eq_some_iff.mp hName] at hs
          have hPreset : o.preset = none := by simpa using hNone
          refine ⟨p, Bytes.text?_eq_some_iff.mp hs, hPreset, ?_⟩
          cases h
          simp [extended, WrittenOption.gives, WrittenOption.preset?, hPreset]
        · cases h
  · rintro ⟨p, rfl, hPreset, rfl⟩
    have hNonempty : (Bytes.ofText p.name).isEmpty = false := by cases p <;> decide
    have hNamed : Preset.named? p.name = some p := Preset.named?_eq_some_iff.mpr rfl
    simp [givePreset, hPreset, hNonempty, hNamed, extended, WrittenOption.gives,
      WrittenOption.preset?]

end Options

/-! ### Steps of the reader -/

/-- The words of a preset option whose value has not been judged. -/
def Pending.words : Pending → List Bytes
  | .nothing => []
  | .awaited => [.ofText "--preset"]
  | .value word => [.ofText "--preset", word]

/-- A reader that has read `front` after the options `o` goes on after the options `o'`, with what
is pending kept back. -/
def Reads (o : Options) (front : List Bytes) (o' : Options) (pending : Pending) : Prop :=
  ∃ ws, wordsOf ws ++ pending.words = front ∧ o.Admits ws ∧ o' = o.extended ws

theorem Reads.trans {o₁ o₂ o₃ : Options} {front more : List Bytes} {p : Pending}
    (h₁ : Reads o₁ front o₂ .nothing) (h₂ : Reads o₂ more o₃ p) :
    Reads o₁ (front ++ more) o₃ p := by
  obtain ⟨ws, rfl, hws, rfl⟩ := h₁
  obtain ⟨vs, rfl, hvs, rfl⟩ := h₂
  refine ⟨ws ++ vs, ?_, Options.admits_append.mpr ⟨hws, hvs⟩, ?_⟩
  · simp [wordsOf, Pending.words]
  · rw [Options.extended_append]

/-- One written option that fits is read. -/
theorem Reads.single {o : Options} {w : WrittenOption} (h : o.Admits [w]) :
    Reads o w.words (o.extended [w]) .nothing :=
  ⟨[w], by simp [wordsOf, Pending.words], h, rfl⟩

/-- A pending value that is settled was a preset. -/
theorem reads_of_settle {o o' : Options} {pending : Pending} (h : o.settle pending = .ok o') :
    Reads o pending.words o' .nothing := by
  cases pending with
  | nothing =>
    cases h
    exact ⟨[], rfl, o.admits_nil, by simp⟩
  | awaited => cases h
  | value word =>
    obtain ⟨p, rfl, hAdmits, rfl⟩ := (Options.givePreset_eq_ok false).mp h
    exact .single hAdmits

/-- The character of a flag in a cluster. -/
def Flag.char : Flag → Char
  | .verbose => 'v'
  | .dryRun => 'n'

theorem encodeChar_char (f : Flag) : String.utf8EncodeChar f.char = [f.letter] := by
  cases f <;> decide

/-- The letters of flags as they are read. -/
def flagChunks (fs : List Flag) : List Utf8.Chunk := fs.map fun f => .scalar f.char

theorem flatMap_bytes_flagChunks (fs : List Flag) :
    (flagChunks fs).flatMap Utf8.Chunk.bytes = fs.map Flag.letter := by
  rw [flagChunks, List.flatMap_map, List.map_eq_flatMap]
  simp only [Utf8.Chunk.bytes, encodeChar_char]

theorem chunks_letters (fs : List Flag) :
    Utf8.chunks (fs.map Flag.letter) = flagChunks fs := by
  induction fs with
  | nil => rfl
  | cons f fs ih =>
    have h := Utf8.chunks_encodeChar_append f.char (fs.map Flag.letter)
    rw [encodeChar_char, List.singleton_append, ih] at h
    exact h

/-- A flag in a cluster is taken in after what was pending. -/
theorem giveCluster_flag (o : Options) (pending : Pending) (f : Flag) (r : List Utf8.Chunk) :
    giveCluster o pending (.scalar f.char :: r) =
      (do giveCluster (← (← o.settle pending).giveFlag f) .nothing r) := by
  cases f <;> rfl

/-- Anything but a flag in a cluster ends the reading: it is not known, or asks for help. -/
theorem flag_or_refused (c : Utf8.Chunk) :
    (∃ f : Flag, c = .scalar f.char) ∨
      ∀ o pending r x, giveCluster o pending (c :: r) ≠ .ok x := by
  cases c with
  | broken b => exact .inr fun o pending r x h => by cases h
  | scalar c =>
    by_cases hv : c = 'v'
    · exact .inl ⟨.verbose, by rw [hv]; rfl⟩
    by_cases hn : c = 'n'
    · exact .inl ⟨.dryRun, by rw [hn]; rfl⟩
    refine .inr fun o pending r x h => ?_
    rw [giveCluster, if_neg hv, if_neg hn] at h
    split at h
    · obtain ⟨_, _, h⟩ := bind_eq_ok_iff.mp h
      cases h
    · cases h

/-- A cluster that is taken in has nothing but flags, each of them new. -/
theorem giveCluster_eq_ok {o o' : Options} {p : Pending} {cs : List Utf8.Chunk}
    (h : giveCluster o .nothing cs = .ok (o', p)) :
    ∃ fs, cs = flagChunks fs ∧ p = .nothing ∧ o.Admits (longFlags fs) ∧
      o' = o.extended (longFlags fs) := by
  induction cs generalizing o with
  | nil =>
    cases h
    exact ⟨[], rfl, rfl, Options.admits_nil _, by simp⟩
  | cons c cs ih =>
    rcases flag_or_refused c with ⟨f, rfl⟩ | hRefused
    · rw [giveCluster_flag] at h
      obtain ⟨o₁, h₁, h⟩ := bind_eq_ok_iff.mp h
      cases h₁
      obtain ⟨o₂, h₂, h⟩ := bind_eq_ok_iff.mp h
      obtain ⟨hFlag, rfl⟩ := Options.giveFlag_eq_ok.mp h₂
      obtain ⟨fs, rfl, rfl, hMore, rfl⟩ := ih h
      refine ⟨f :: fs, rfl, rfl, ?_, ?_⟩
      · exact Options.admits_append.mpr ⟨hFlag, hMore⟩
      · exact (o.extended_append [.long f] (longFlags fs)).symm
    · exact absurd h (hRefused _ _ _ _)

/-- Flags that are new are taken in, one after the other. -/
theorem giveCluster_flagChunks {o : Options} {fs : List Flag} (h : o.Admits (longFlags fs)) :
    giveCluster o .nothing (flagChunks fs) = .ok (o.extended (longFlags fs), .nothing) := by
  induction fs generalizing o with
  | nil => simp [flagChunks, giveCluster]
  | cons f fs ih =>
    have hBoth : o.Admits ([.long f] ++ longFlags fs) := h
    obtain ⟨hFlag, hMore⟩ := Options.admits_append.mp hBoth
    have hGive := Options.giveFlag_eq_ok.mpr ⟨hFlag, rfl⟩
    rw [flagChunks, List.map_cons, giveCluster_flag, Options.settle]
    change (do giveCluster (← o.giveFlag f) .nothing (flagChunks fs)) = _
    rw [hGive]
    change giveCluster (o.extended [.long f]) .nothing (flagChunks fs) = _
    rw [ih hMore, ← Options.extended_append]
    rfl

/-- What is pending is settled before a cluster is taken in. -/
theorem giveCluster_settled {o o₁ : Options} {pending : Pending} {cs : List Utf8.Chunk}
    (hne : cs ≠ []) (h : o.settle pending = .ok o₁) :
    giveCluster o pending cs = giveCluster o₁ .nothing cs := by
  cases cs with
  | nil => exact absurd rfl hne
  | cons c cs =>
    cases c with
    | broken b => rfl
    | scalar c =>
      have h₁ : o₁.settle .nothing = .ok o₁ := rfl
      simp only [giveCluster, h, h₁]

theorem settled_of_giveCluster {o : Options} {pending : Pending} {cs : List Utf8.Chunk}
    {x : Options × Pending} (hne : cs ≠ []) (h : giveCluster o pending cs = .ok x) :
    ∃ o₁, o.settle pending = .ok o₁ := by
  cases cs with
  | nil => exact absurd rfl hne
  | cons c cs =>
    rcases flag_or_refused c with ⟨f, rfl⟩ | hRefused
    · rw [giveCluster_flag] at h
      obtain ⟨o₁, h₁, _⟩ := bind_eq_ok_iff.mp h
      exact ⟨o₁, h₁⟩
    · exact absurd h (hRefused _ _ _ _)

end CommandLine

end BuildDispatch
