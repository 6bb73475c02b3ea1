import BuildDispatch.Toml.Document
import Mathlib.Data.List.Nodup

/-! The table that a document of plain pairs and of sections builds up.  A section is a table with a
header of its own inside one outer table, and all keys in it are plain; `Outline` is such a
document, and `ofStatements?_outline` says that its statements build the table it describes. -/

namespace BuildDispatch.Toml

namespace Fields

/-- The names of the nodes. -/
abbrev names (fields : Fields) : List String := fields.map (·.1)

/-- Finished values under their keys. -/
def leaves (entries : Entries) : Fields := entries.map fun e => (e.1, .leaf e.2)

theorem entries_eq_map (fields : Fields) :
    Fields.entries fields = fields.map fun e => (e.1, e.2.value) := by
  induction fields with
  | nil => rfl
  | cons e fields ih => rw [Fields.entries, List.map_cons, ih]

theorem entries_append (fields more : Fields) :
    Fields.entries (fields ++ more) = Fields.entries fields ++ Fields.entries more := by
  rw [entries_eq_map, entries_eq_map, entries_eq_map, List.map_append]

theorem entries_leaves (entries : Entries) : Fields.entries (leaves entries) = entries := by
  rw [entries_eq_map, leaves, List.map_map]
  exact List.map_id _

theorem names_leaves (entries : Entries) : names (leaves entries) = entries.map (·.1) := by
  simp [names, leaves]

variable {fields : Fields} {name : String}

theorem find?_eq_none (h : name ∉ names fields) : fields.find? name = none := by
  induction fields with
  | nil => rfl
  | cons e fields ih =>
    rw [names, List.map_cons, List.mem_cons, not_or] at h
    rw [find?, if_neg (Ne.symm h.1), ih h.2]

theorem find?_concat (h : name ∉ names fields) (node : Node) :
    find? name (fields ++ [(name, node)]) = some node := by
  induction fields with
  | nil => simp [find?]
  | cons e fields ih =>
    rw [names, List.map_cons, List.mem_cons, not_or] at h
    rw [List.cons_append, find?, if_neg (Ne.symm h.1), ih h.2]

/-- A node with a new name is put at the end. -/
theorem put_new (h : name ∉ names fields) (node : Node) :
    fields.put name node = fields ++ [(name, node)] := by
  induction fields with
  | nil => rfl
  | cons e fields ih =>
    rw [names, List.map_cons, List.mem_cons, not_or] at h
    rw [put, if_neg (Ne.symm h.1), ih h.2, List.cons_append]

/-- The last node is replaced where it stands. -/
theorem put_concat (h : name ∉ names fields) (old node : Node) :
    put name node (fields ++ [(name, old)]) = fields ++ [(name, node)] := by
  induction fields with
  | nil => simp [put]
  | cons e fields ih =>
    rw [names, List.map_cons, List.mem_cons, not_or] at h
    rw [List.cons_append, put, if_neg (Ne.symm h.1), ih h.2, List.cons_append]

/-- A plain key assigns its value in the table at hand. -/
theorem assign_plain (h : name ∉ names fields) (value : Value) :
    assign ⟨[], name⟩ value .header fields = some (fields ++ leaves [(name, value)]) := by
  have hNone := find?_eq_none h
  simp [assign, changeAt, hNone, put_new h, leaves]

/-- Assigns values under plain keys, one after the other. -/
def assignAll (entries : Entries) (fields : Fields) : Option Fields :=
  entries.foldlM (fun fields e => assign ⟨[], e.1⟩ e.2 .header fields) fields

theorem assignAll_cons (e : String × Value) (entries : Entries) (fields : Fields) :
    assignAll (e :: entries) fields =
      (assign ⟨[], e.1⟩ e.2 .header fields).bind (assignAll entries) :=
  List.foldlM_cons

/-- Values under new keys go to the end, in their order. -/
theorem assignAll_eq (entries : Entries) (fields : Fields)
    (h : (names fields ++ entries.map (·.1)).Nodup) :
    assignAll entries fields = some (fields ++ leaves entries) := by
  induction entries generalizing fields with
  | nil =>
    rw [leaves, List.map_nil, List.append_nil]
    rfl
  | cons e entries ih =>
    have hNew : e.1 ∉ names fields := by
      intro hMem
      exact (List.nodup_append.mp h).2.2 _ hMem e.1 (by simp) rfl
    have hNext : (names (fields ++ leaves [e]) ++ entries.map (·.1)).Nodup := by
      simpa [names, leaves] using h
    rw [assignAll_cons, assign_plain hNew, Option.bind_some, ih _ hNext, List.append_assoc]
    rfl

end Fields

/-- Statements with plain keys. -/
def pairStatements (entries : Entries) : List Statement :=
  entries.map fun e => .pair ⟨[], e.1⟩ e.2

open Fields

/-- The path leads to a table: a change at its end is a change of that table, put back in its place
by `rebuild`. -/
def Leads (path : List String) (rebuild : Fields → Fields) : Prop :=
  ∀ change inner, changeAt .passedByHeader change path .header (rebuild inner) =
    (change .header inner).map rebuild

theorem leads_root : Leads [] id := by
  intro change inner
  simp [changeAt]

/-- Plain pairs are assigned in the table that was opened last. -/
theorem foldlM_add_pairs {path : List String} {rebuild : Fields → Fields}
    (h : Leads path rebuild) (entries : Entries) (inner : Fields) :
    (pairStatements entries).foldlM Draft.add ⟨rebuild inner, path⟩ =
      (assignAll entries inner).map fun fields => ⟨rebuild fields, path⟩ := by
  induction entries generalizing inner with
  | nil => rfl
  | cons e entries ih =>
    rw [pairStatements, List.map_cons, List.foldlM_cons, Draft.add, h, assignAll_cons]
    cases assign ⟨[], e.1⟩ e.2 .header inner with
    | none => rfl
    | some fields => exact ih fields

/-! ### Sections -/

section Sections

variable {outer : String} {top done : Fields} {name : String}

/-- The root with the finished sections in the outer table, which is there from the first of them
on. -/
def underOuter (outer : String) (top done : Fields) : Fields :=
  if done.isEmpty then top else top ++ [(outer, .table .passedByHeader done)]

theorem underOuter_concat (outer : String) (top done : Fields) (e : String × Node) :
    underOuter outer top (done ++ [e]) =
      top ++ [(outer, .table .passedByHeader (done ++ [e]))] := by
  simp [underOuter]

/-- A section that is open, behind the finished ones. -/
def openSection (outer : String) (top done : Fields) (name : String) (inner : Fields) : Fields :=
  underOuter outer top (done ++ [(name, .table .header inner)])

/-- The header of a new section opens it behind the others. -/
theorem openTable_section (hTop : outer ∉ names top) (hName : name ∉ names done) :
    openTable ⟨[outer], name⟩ (underOuter outer top done) =
      some (openSection outer top done name []) := by
  rw [openSection, underOuter_concat]
  cases done with
  | nil => simp [openTable, changeAt, underOuter, find?_eq_none hTop, put_new hTop, find?, put]
  | cons e done =>
    simp [openTable, changeAt, underOuter, find?_concat hTop, put_concat hTop, find?_eq_none hName,
      put_new hName]

theorem leads_section (hTop : outer ∉ names top) (hName : name ∉ names done) :
    Leads [outer, name] (openSection outer top done name) := by
  intro change inner
  simp only [openSection, underOuter_concat]
  rw [changeAt, find?_concat hTop]
  simp only [reduceCtorEq, decide_false, Bool.false_and, Bool.false_eq_true, if_false]
  rw [changeAt, find?_concat hName]
  simp only [reduceCtorEq, decide_false, Bool.false_and, Bool.false_eq_true, if_false]
  rw [changeAt]
  cases change .header inner with
  | none => rfl
  | some changed =>
    change some (put outer (.table .passedByHeader
      (put name (.table .header changed) (done ++ [(name, .table .header inner)]))) _) = some _
    rw [put_concat hName, put_concat hTop, openSection, underOuter_concat]

/-- The statements of a section. -/
def sectionStatements (outer : String) (s : String × Entries) : List Statement :=
  .table ⟨[outer], s.1⟩ :: pairStatements s.2

/-- The node of a finished section. -/
def sectionNode (s : String × Entries) : String × Node := (s.1, .table .header (leaves s.2))

/-- A section goes behind those that are finished. -/
theorem foldlM_add_section (hTop : outer ∉ names top) {s : String × Entries}
    (hName : s.1 ∉ names done) (hKeys : (s.2.map (·.1)).Nodup) (current : List String) :
    (sectionStatements outer s).foldlM Draft.add ⟨underOuter outer top done, current⟩ =
      some ⟨underOuter outer top (done ++ [sectionNode s]), [outer, s.1]⟩ := by
  rw [sectionStatements, List.foldlM_cons, Draft.add, openTable_section hTop hName]
  refine (foldlM_add_pairs (leads_section hTop hName) s.2 []).trans ?_
  rw [assignAll_eq s.2 [] hKeys]
  rfl

theorem foldlM_add_sections (hTop : outer ∉ names top) (sections : List (String × Entries))
    (done : Fields) (hNames : (names done ++ sections.map (·.1)).Nodup)
    (hKeys : ∀ s ∈ sections, (s.2.map (·.1)).Nodup) (current : List String) :
    ∃ last, (sections.flatMap (sectionStatements outer)).foldlM Draft.add
        ⟨underOuter outer top done, current⟩ =
      some ⟨underOuter outer top (done ++ sections.map sectionNode), last⟩ := by
  -- The finished sections grow by the one just read.  What was opened before it plays no part, as
  -- every section begins with its header.
  induction sections generalizing done current with
  | nil =>
    refine ⟨current, ?_⟩
    rw [List.map_nil, List.append_nil]
    rfl
  | cons s sections ih =>
    have hName : s.1 ∉ names done := by
      intro hMem
      exact (List.nodup_append.mp hNames).2.2 _ hMem s.1 (by simp) rfl
    have hNext : (names (done ++ [sectionNode s]) ++ sections.map (·.1)).Nodup := by
      simpa [names, sectionNode] using hNames
    obtain ⟨last, hLast⟩ := ih (done ++ [sectionNode s]) hNext
      (fun t ht => hKeys t (List.mem_cons_of_mem _ ht)) [outer, s.1]
    refine ⟨last, ?_⟩
    rw [List.flatMap_cons, List.foldlM_append,
      foldlM_add_section hTop hName (hKeys s List.mem_cons_self) current]
    refine hLast.trans ?_
    rw [List.append_assoc]
    rfl

end Sections

/-! ### Outlines -/

/-- A document of plain pairs, and behind them sections of plain pairs in one outer table. -/
structure Outline where
  outer : String
  pairs : Entries
  sections : List (String × Entries)

namespace Outline

/-- Nothing is named twice. -/
structure WellFormed (o : Outline) : Prop where
  keys : (o.pairs.map (·.1)).Nodup
  outer : o.outer ∉ o.pairs.map (·.1)
  names : (o.sections.map (·.1)).Nodup
  sections : ∀ s ∈ o.sections, (s.2.map (·.1)).Nodup

/-- The statements of an outline, in order. -/
def statements (o : Outline) : List Statement :=
  pairStatements o.pairs ++ o.sections.flatMap (sectionStatements o.outer)

/-- The table that an outline describes. -/
def entries (o : Outline) : Entries :=
  o.pairs ++ if o.sections.isEmpty then []
    else [(o.outer, .table (o.sections.map fun s => (s.1, .table s.2)))]

end Outline

theorem entries_sectionNodes (sections : List (String × Entries)) :
    Fields.entries (sections.map sectionNode) = sections.map fun s => (s.1, .table s.2) := by
  rw [entries_eq_map, List.map_map]
  apply List.map_congr_left
  intro s _
  rw [Function.comp_apply, sectionNode, Node.value, entries_leaves]

theorem entries_underOuter (o : Outline) :
    Fields.entries (underOuter o.outer (leaves o.pairs) (o.sections.map sectionNode)) =
      o.entries := by
  rw [underOuter, Outline.entries, List.isEmpty_map]
  split
  · rw [entries_leaves, List.append_nil]
  · rw [entries_append, entries_leaves, Fields.entries, Node.value, entries_sectionNodes,
      Fields.entries]

/-- The statements of an outline build the table it describes. -/
theorem ofStatements?_outline {o : Outline} (h : o.WellFormed) :
    Entries.ofStatements? o.statements = some o.entries := by
  have hPairs := foldlM_add_pairs leads_root o.pairs []
  rw [assignAll_eq o.pairs [] h.keys] at hPairs
  have hTop : o.outer ∉ names (leaves o.pairs) := by
    rw [names_leaves]
    exact h.outer
  obtain ⟨last, hSections⟩ := foldlM_add_sections hTop o.sections [] h.names h.sections []
  have hDraft : o.statements.foldlM Draft.add Draft.empty =
      some ⟨underOuter o.outer (leaves o.pairs) (o.sections.map sectionNode), last⟩ := by
    rw [Outline.statements, List.foldlM_append]
    change (pairStatements o.pairs).foldlM Draft.add ⟨id [], []⟩ >>= _ = _
    rw [hPairs]
    exact hSections
  rw [Entries.ofStatements?, hDraft, ← entries_underOuter]
  rfl

end BuildDispatch.Toml
