import NormalForms.Proofs.Schema.Lookup

/-!
# Sessions

A session is what a caller has in hand: tables, schemas and drafts, in any
number. A call makes a new one or changes one that is there, and may be refused.
Whatever the calls and their order, every table and every schema in hand is well
formed (`Sound`), and a refused call changes nothing: what a call is made on is
replaced by what the call leaves of it, so this is a property of each call that
can be refused (`IsClean`).

The index of a schema notes each key once and with the position of the table of
that name, since adding, changing and resolving tables keep it in step with the
list.
-/

namespace NormalForms

open Identifier

/-! ## Sessions and calls -/

structure Session where
  tables : List Table := []
  schemas : List Schema := []
  drafts : List Draft := []

namespace Session

/-- A call names what it works on by its position. `copyTable` takes a table out
of a schema; `finish` leaves the draft in hand beside the schema it gives. -/
inductive Call where
  | newTable (name : String)
  | newSchema (name : String)
  | newDraft (name : String)
  | copyTable (schema table : Nat)
  | addColumn (table : Nat) (column : Column)
  | addConstraint (table : Nat) (constraint : Constraint)
  | addTable (schema table : Nat)
  | resolve (schema : Nat)
  | addStatement (draft index : Nat) (text : String) (statement : Sql.Statement)
  | finish (draft : Nat)

/-- The element at `i` replaced by what the call `f` leaves of it. -/
def update {α : Type} (l : List α) (i : Nat) (f : α → Answer α) : Answer (List α) :=
  match l[i]? with
  | none => (l, none)
  | some a => (l.set i (f a).1, (f a).2)

def updateTable (w : Session) (i : Nat) (f : Table → Answer Table) : Answer Session :=
  ({ w with tables := (update w.tables i f).1 }, (update w.tables i f).2)

def updateSchema (w : Session) (i : Nat) (f : Schema → Answer Schema) : Answer Session :=
  ({ w with schemas := (update w.schemas i f).1 }, (update w.schemas i f).2)

def updateDraft (w : Session) (i : Nat) (f : Draft → Draft) : Session :=
  { w with drafts := (update w.drafts i fun d => (f d, none)).1 }

def call (w : Session) : Call → Answer Session
  | .newTable name => ({ w with tables := w.tables ++ [{ name }] }, none)
  | .newSchema name => ({ w with schemas := w.schemas ++ [.empty name] }, none)
  | .newDraft name => ({ w with drafts := w.drafts ++ [Draft.empty name] }, none)
  | .copyTable i j =>
    ({ w with tables := w.tables ++ (w.schemas[i]?.bind fun s => s.tables[j]?).toList }, none)
  | .addColumn i c => w.updateTable i fun t => t.offerColumn c
  | .addConstraint i c => w.updateTable i fun t => t.offerConstraint c
  | .addTable i j =>
    match w.tables[j]? with
    | none => (w, none)
    | some t => w.updateSchema i fun s => s.offerTable t
  | .resolve i => w.updateSchema i fun s => (s.resolve, none)
  | .addStatement i index text statement =>
    (w.updateDraft i fun d => d.add index text statement, none)
  | .finish i =>
    ({ w with schemas := w.schemas ++ (w.drafts[i]?.map fun d => d.finish.schema).toList }, none)

def run (calls : List Call) : Session := calls.foldl (fun w c => (w.call c).1) {}

/-- The schemas in hand, those of the drafts included. -/
def allSchemas (w : Session) : List Schema := w.schemas ++ w.drafts.map Draft.schema

/-- The tables in hand, those of the schemas included. -/
def allTables (w : Session) : List Table := w.tables ++ w.allSchemas.flatMap Schema.tables

/-! ## What every call keeps -/

structure Sound (w : Session) : Prop where
  tables : ∀ t ∈ w.tables, t.WellFormed
  schemas : ∀ s ∈ w.schemas, s.WellFormed
  drafts : ∀ d ∈ w.drafts, d.schema.WellFormed

/-- A call that leaves a thing as it was whenever it refuses. -/
def IsClean {α : Type} (f : α → Answer α) : Prop := ∀ {a r}, (f a).2 = some r → (f a).1 = a

section update

variable {α : Type} {l : List α} {i : Nat} {f : α → Answer α}

theorem forall_update {P : α → Prop} (hl : ∀ a ∈ l, P a) (hf : ∀ {a}, P a → P (f a).1) :
    ∀ a ∈ (update l i f).1, P a := by
  unfold update
  split
  · exact hl
  · rename_i a ha
    intro c hc
    rcases List.mem_or_eq_of_mem_set hc with hc | rfl
    · exact hl c hc
    · exact hf (hl a (List.mem_of_getElem? ha))

/-- An element that is put back as it was leaves the list as it was. -/
theorem update_of_refused (hf : IsClean f) {r : Rejection} (h : (update l i f).2 = some r) :
    (update l i f).1 = l := by
  unfold update at h ⊢
  split at h
  · rfl
  · rename_i a ha
    obtain ⟨hlt, rfl⟩ := List.getElem?_eq_some_iff.1 ha
    rw [hf h, List.set_getElem_self]

end update

variable {w : Session}

theorem Sound.updateTable (h : w.Sound) (i : Nat) {f : Table → Answer Table}
    (hf : ∀ {t}, t.WellFormed → (f t).1.WellFormed) : (w.updateTable i f).1.Sound :=
  ⟨forall_update h.tables hf, h.schemas, h.drafts⟩

theorem Sound.updateSchema (h : w.Sound) (i : Nat) {f : Schema → Answer Schema}
    (hf : ∀ {s}, s.WellFormed → (f s).1.WellFormed) : (w.updateSchema i f).1.Sound :=
  ⟨h.tables, forall_update h.schemas hf, h.drafts⟩

theorem Sound.updateDraft (h : w.Sound) (i : Nat) {f : Draft → Draft}
    (hf : ∀ {d : Draft}, d.schema.WellFormed → (f d).schema.WellFormed) :
    (w.updateDraft i f).Sound :=
  ⟨h.tables, h.schemas, forall_update h.drafts hf⟩

/-- One call keeps a session sound. -/
theorem Sound.call (h : w.Sound) (c : Call) : (w.call c).1.Sound := by
  cases c with
  | newTable name =>
    exact ⟨List.forall_mem_append.2 ⟨h.tables, List.forall_mem_singleton.2 (.empty name)⟩,
      h.schemas, h.drafts⟩
  | newSchema name =>
    exact ⟨h.tables,
      List.forall_mem_append.2 ⟨h.schemas, List.forall_mem_singleton.2 (.empty name)⟩, h.drafts⟩
  | newDraft name =>
    exact ⟨h.tables, h.schemas,
      List.forall_mem_append.2 ⟨h.drafts, List.forall_mem_singleton.2 (.empty name)⟩⟩
  | copyTable i j =>
    refine ⟨List.forall_mem_append.2 ⟨h.tables, fun t ht => ?_⟩, h.schemas, h.drafts⟩
    obtain ⟨s, hs, ht⟩ := Option.bind_eq_some_iff.1 (Option.mem_toList.1 ht)
    exact (h.schemas s (List.mem_of_getElem? hs)).tables t (List.mem_of_getElem? ht)
  | addColumn i c => exact h.updateTable i fun ht => ht.offerColumn c
  | addConstraint i c => exact h.updateTable i fun ht => ht.offerConstraint c
  | addTable i j =>
    unfold Session.call
    dsimp only
    split
    · exact h
    · rename_i t ht
      exact h.updateSchema i fun hs => hs.offerTable (h.tables t (List.mem_of_getElem? ht))
  | resolve i => exact h.updateSchema i fun hs => hs.resolve
  | addStatement i index text statement =>
    exact h.updateDraft i fun hd => Draft.wellFormed_add hd index text statement
  | finish i =>
    refine ⟨h.tables, List.forall_mem_append.2 ⟨h.schemas, fun s hs => ?_⟩, h.drafts⟩
    obtain ⟨d, hd, rfl⟩ := Option.map_eq_some_iff.1 (Option.mem_toList.1 hs)
    exact (h.drafts d (List.mem_of_getElem? hd)).resolve

/-- Every session that calls lead to is sound. -/
theorem sound_run (calls : List Call) : (run calls).Sound := by
  have h : ∀ {w : Session}, w.Sound → (calls.foldl (fun w c => (w.call c).1) w).Sound := by
    induction calls with
    | nil => exact fun hw => hw
    | cons c calls ih => exact fun hw => ih (hw.call c)
  exact h ⟨List.forall_mem_nil _, List.forall_mem_nil _, List.forall_mem_nil _⟩

theorem Sound.allSchemas (h : w.Sound) {s : Schema} (hs : s ∈ w.allSchemas) : s.WellFormed := by
  rcases List.mem_append.1 hs with hs | hs
  · exact h.schemas s hs
  · obtain ⟨d, hd, rfl⟩ := List.mem_map.1 hs
    exact h.drafts d hd

theorem Sound.allTables (h : w.Sound) {t : Table} (ht : t ∈ w.allTables) : t.WellFormed := by
  rcases List.mem_append.1 ht with ht | ht
  · exact h.tables t ht
  · obtain ⟨s, hs, ht⟩ := List.mem_flatMap.1 ht
    exact (h.allSchemas hs).tables t ht

theorem updateTable_of_refused {i : Nat} {f : Table → Answer Table} (hf : IsClean f)
    {r : Rejection} (h : (w.updateTable i f).2 = some r) : (w.updateTable i f).1 = w := by
  rw [updateTable, update_of_refused hf h]

theorem updateSchema_of_refused {i : Nat} {f : Schema → Answer Schema} (hf : IsClean f)
    {r : Rejection} (h : (w.updateSchema i f).2 = some r) : (w.updateSchema i f).1 = w := by
  rw [updateSchema, update_of_refused hf h]

/-- A refused call changes nothing. -/
theorem call_of_refused (w : Session) (c : Call) {r : Rejection} (h : (w.call c).2 = some r) :
    (w.call c).1 = w := by
  cases c with
  | addColumn i c => exact updateTable_of_refused Table.offerColumn_of_refused h
  | addConstraint i c => exact updateTable_of_refused Table.offerConstraint_of_refused h
  | addTable i j =>
    unfold call at h ⊢
    dsimp only at h ⊢
    split at h
    · cases h
    · exact updateSchema_of_refused Schema.offerTable_of_refused h
  | resolve i => exact updateSchema_of_refused (fun hr => by cases hr) h
  | newTable | newSchema | newDraft | copyTable | addStatement | finish => cases h

/-- **Whatever the calls**: every table in hand is well formed and finds each of
its columns under its name. Every schema in hand is well formed; its index notes
no key twice, and for the key of a name the position of the table of that name
and nothing else, so that it finds exactly its tables; and it is linked once it
is resolved or finished. The next call, if it is refused, leaves everything as it
was. -/
theorem run_lawful (calls : List Call) :
    (∀ t ∈ (run calls).allTables, t.WellFormed ∧ ∀ c ∈ t.columns, t.column? c.name = some c) ∧
    (∀ s ∈ (run calls).allSchemas, s.WellFormed ∧
      (s.index.map Prod.fst).Nodup ∧
      (∀ n i, s.index.lookup (key n) = some i ↔
        ∃ t, s.tables[i]? = some t ∧ same t.name n = true) ∧
      (∀ n t, s.table? n = some t ↔ t ∈ s.tables ∧ same t.name n = true) ∧
      s.resolve.Linked) ∧
    (∀ d ∈ (run calls).drafts, d.finish.schema.Linked) ∧
    ∀ c r, ((run calls).call c).2 = some r → ((run calls).call c).1 = run calls := by
  have h := sound_run calls
  refine ⟨fun t ht => ?_, fun s hs => ?_, fun d hd => ?_, fun c r hr => ?_⟩
  · have hw := h.allTables ht
    exact ⟨hw, fun c hc => hw.column?_name hc⟩
  · have hw := h.allSchemas hs
    exact ⟨hw, hw.nodup_index, fun n i => hw.position?_eq_some_iff,
      fun n t => hw.table?_eq_some_iff, hw.linked_resolve⟩
  · exact (h.drafts d hd).linked_resolve
  · exact call_of_refused _ c hr

end Session

end NormalForms
