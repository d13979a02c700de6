import NormalForms.Draft

/-!
# What holds of every table and every schema

A table is well formed if its columns have different names, it has one primary
key at most, and its foreign keys pair their columns with those they refer to. A
schema is well formed if its tables are, and have different names. Every way to
add something keeps this, and so does resolving, after which the relationships
of a schema lead from its tables to its tables (`Linked`).

Looking up a name is then exact: it finds the one element of that name.
-/

namespace NormalForms

open Identifier

/-! ## Looking up by name -/

/-- Elements of which no two have the same name. -/
def NamedApart {α : Type} (name : α → String) (l : List α) : Prop :=
  l.Pairwise fun a b => same (name a) (name b) = false

section NamedApart

variable {α : Type} {name : α → String} {l : List α}

theorem NamedApart.find?_eq_some_iff (h : NamedApart name l) {n : String} {a : α} :
    l.find? (fun x => same (name x) n) = some a ↔ a ∈ l ∧ same (name a) n = true := by
  constructor
  · intro hf
    have hn : same (name a) n = true := by simpa using List.find?_some hf
    exact ⟨List.mem_of_find?_eq_some hf, hn⟩
  · rintro ⟨hm, hn⟩
    induction l with
    | nil => cases hm
    | cons b l ih =>
      obtain ⟨hb, hl⟩ := List.pairwise_cons.1 h
      rw [List.find?_cons]
      rcases List.mem_cons.1 hm with rfl | hm
      · rw [hn]
      · cases hbn : same (name b) n with
        | true =>
          have hba := same_trans hbn (same_symm hn)
          rw [hb a hm] at hba
          cases hba
        | false => exact ih hl hm

theorem NamedApart.append_singleton (h : NamedApart name l) {a : α}
    (ha : l.find? (fun x => same (name x) (name a)) = none) : NamedApart name (l ++ [a]) := by
  refine List.pairwise_append.2 ⟨h, List.pairwise_singleton _ _, fun b hb c hc => ?_⟩
  cases List.mem_singleton.1 hc
  exact Bool.eq_false_iff.2 (List.find?_eq_none.1 ha b hb)

theorem namedApart_iff_pairwise :
    NamedApart name l ↔ (l.map name).Pairwise fun a b => same a b = false := by
  rw [List.pairwise_map]
  rfl

/-- Changing elements and keeping their names keeps them apart. -/
theorem NamedApart.map (h : NamedApart name l) {f : α → α}
    (hf : ∀ a ∈ l, name (f a) = name a) : NamedApart name (l.map f) := by
  refine List.pairwise_map.2 (List.Pairwise.imp_of_mem ?_ h)
  intro a b ha hb hab
  rwa [hf a ha, hf b hb]

end NamedApart

/-! ## Tables -/

/-- The columns are paired with those they refer to, or these are left open. -/
def ForeignKey.IsPaired (fk : ForeignKey) : Prop :=
  fk.targetColumns = [] ∨ fk.targetColumns.length = fk.columns.length

structure Table.WellFormed (t : Table) : Prop where
  columns : NamedApart Column.name t.columns
  key : (t.constraints.filterMap Constraint.primaryKey?).length ≤ 1
  paired : ∀ fk ∈ t.foreignKeys, fk.IsPaired

namespace Table.WellFormed

variable {t t' : Table}

theorem empty (name : String) : WellFormed { name } where
  columns := List.Pairwise.nil
  key := Nat.zero_le 1
  paired := fun _ hfk => by cases hfk

theorem column?_eq_some_iff (h : t.WellFormed) {n : String} {c : Column} :
    t.column? n = some c ↔ c ∈ t.columns ∧ same c.name n = true :=
  h.columns.find?_eq_some_iff

/-- Every column is found under its own name. -/
theorem column?_name (h : t.WellFormed) {c : Column} (hc : c ∈ t.columns) :
    t.column? c.name = some c :=
  h.column?_eq_some_iff.2 ⟨hc, same_refl _⟩

theorem addColumn (h : t.WellFormed) {c : Column} (hc : t.addColumn c = .ok t') :
    t'.WellFormed := by
  obtain ⟨hnew, rfl⟩ := addColumn_eq_ok_iff.1 hc
  exact ⟨h.columns.append_singleton hnew, h.key, h.paired⟩

/-- Whether a column is taken or refused, the table left is well formed. -/
theorem offerColumn (h : t.WellFormed) (c : Column) : (t.offerColumn c).1.WellFormed := by
  cases hc : t.addColumn c with
  | ok t' =>
    rw [offerColumn_of_ok hc]
    exact h.addColumn hc
  | error r =>
    rw [offerColumn_of_error hc]
    exact h

theorem objection?_foreignKey_eq_none_iff {fk : ForeignKey} :
    t.objection? (.foreignKey fk) = none ↔ fk.IsPaired := by
  simp only [objection?, ForeignKey.IsPaired]
  split <;> simp_all

theorem objection?_primaryKey_eq_none_iff {name : Option String} {columns : List String} :
    t.objection? (.primaryKey name columns) = none ↔ t.primaryKey? = none := by
  simp only [objection?]
  cases t.primaryKey? <;> simp

theorem filterMap_primaryKey?_eq_nil (h : t.primaryKey? = none) :
    t.constraints.filterMap Constraint.primaryKey? = [] :=
  List.filterMap_eq_nil_iff.2 fun c hc => List.findSome?_eq_none_iff.1 h c hc

theorem addConstraint (h : t.WellFormed) {c : Constraint} (hc : t.addConstraint c = .ok t') :
    t'.WellFormed := by
  obtain ⟨hno, rfl⟩ := addConstraint_eq_ok_iff.1 hc
  refine ⟨h.columns, ?_, ?_⟩
  · rw [List.filterMap_append, List.length_append]
    cases c with
    | primaryKey name columns =>
      rw [filterMap_primaryKey?_eq_nil (objection?_primaryKey_eq_none_iff.1 hno)]
      exact Nat.le_refl 1
    | foreignKey fk => exact h.key
    | unique name columns => exact h.key
    | check name columns expression => exact h.key
  · intro fk hfk
    rw [foreignKeys, List.filterMap_append, List.mem_append] at hfk
    rcases hfk with hfk | hfk
    · exact h.paired fk hfk
    · cases c with
      | foreignKey fk' =>
        cases List.mem_singleton.1 hfk
        exact objection?_foreignKey_eq_none_iff.1 hno
      | primaryKey name columns => cases hfk
      | unique name columns => cases hfk
      | check name columns expression => cases hfk

/-- Whether a constraint is taken or refused, the table left is well formed. -/
theorem offerConstraint (h : t.WellFormed) (c : Constraint) :
    (t.offerConstraint c).1.WellFormed := by
  cases hc : t.addConstraint c with
  | ok t' =>
    rw [offerConstraint_of_ok hc]
    exact h.addConstraint hc
  | error r =>
    rw [offerConstraint_of_error hc]
    exact h

end Table.WellFormed

/-! ## Schemas -/

structure Schema.WellFormed (s : Schema) : Prop where
  tables : ∀ t ∈ s.tables, t.WellFormed
  names : NamedApart Table.name s.tables

/-- Every relationship leads from a table of the schema to a table of the
schema, and pairs its columns. -/
def Schema.Linked (s : Schema) : Prop :=
  ∀ r ∈ s.relationships,
    (∃ t ∈ s.tables, t.name = r.source) ∧ (∃ t ∈ s.tables, t.name = r.target) ∧
      r.sourceColumns.length = r.targetColumns.length

namespace Schema

theorem mem_of_table?_eq_some {s : Schema} {n : String} {t : Table} (h : s.table? n = some t) :
    t ∈ s.tables := by
  rw [table?_eq_find?] at h
  exact List.mem_of_find?_eq_some h

/-- Where a foreign key leads: to a table of the schema, with as many columns as
it has itself. -/
theorem of_destination?_eq_some {s : Schema} {fk : ForeignKey} (h : fk.IsPaired) {t : Table}
    {columns : List String} (hd : s.destination? fk = some (t, columns)) :
    t ∈ s.tables ∧ columns.length = fk.columns.length := by
  unfold destination? at hd
  split at hd
  · cases hd
  · rename_i u hu
    have hmem := mem_of_table?_eq_some hu
    split at hd
    · split at hd
      · rename_i hlen
        cases hd
        exact ⟨hmem, hlen⟩
      · cases hd
    · rename_i hne
      cases hd
      exact ⟨hmem, h.resolve_left fun he => hne (by rw [he]; rfl)⟩

theorem isPaired_completeKey (s : Schema) {fk : ForeignKey} (h : fk.IsPaired) :
    (s.completeKey fk).IsPaired := by
  unfold completeKey
  split
  · exact h
  · rename_i t columns hd
    exact .inr (of_destination?_eq_some h hd).2

theorem foreignKeys_resolveTable (s : Schema) (t : Table) :
    (s.resolveTable t).foreignKeys = t.foreignKeys.map s.completeKey := by
  rw [Table.foreignKeys, resolveTable, List.filterMap_map, Table.foreignKeys, List.map_filterMap]
  congr 1
  funext c
  cases c <;> rfl

theorem wellFormed_resolveTable (s : Schema) {t : Table} (h : t.WellFormed) :
    (s.resolveTable t).WellFormed := by
  refine ⟨h.columns, ?_, ?_⟩
  · have hk : Constraint.primaryKey? ∘ s.complete = Constraint.primaryKey? :=
      funext fun c => primaryKey?_complete s c
    rw [resolveTable, List.filterMap_map, hk]
    exact h.key
  · intro fk hfk
    rw [foreignKeys_resolveTable] at hfk
    obtain ⟨fk', hfk', rfl⟩ := List.mem_map.1 hfk
    exact isPaired_completeKey s (h.paired fk' hfk')

namespace WellFormed

variable {s s' : Schema}

theorem empty (name : String) : WellFormed { name } where
  tables := fun _ ht => by cases ht
  names := List.Pairwise.nil

/-- **Looking up is exact**: it finds the one table of the name. -/
theorem table?_eq_some_iff (h : s.WellFormed) {n : String} {t : Table} :
    s.table? n = some t ↔ t ∈ s.tables ∧ same t.name n = true := by
  rw [table?_eq_find?]
  exact h.names.find?_eq_some_iff

theorem addTable (h : s.WellFormed) {t : Table} (ht : t.WellFormed)
    (hs : s.addTable t = .ok s') : s'.WellFormed := by
  obtain ⟨hnew, rfl⟩ := addTable_eq_ok_iff.1 hs
  rw [table?_eq_find?] at hnew
  refine ⟨fun u hu => ?_, h.names.append_singleton hnew⟩
  rcases List.mem_append.1 hu with hu | hu
  · exact h.tables u hu
  · cases List.mem_singleton.1 hu
    exact ht

/-- Whether a table is taken or refused, the schema left is well formed. -/
theorem offerTable (h : s.WellFormed) {t : Table} (ht : t.WellFormed) :
    (s.offerTable t).1.WellFormed := by
  cases hs : s.addTable t with
  | ok s' =>
    rw [offerTable_of_ok hs]
    exact h.addTable ht hs
  | error r =>
    rw [offerTable_of_error hs]
    exact h

/-- Changing a table and keeping its name. -/
theorem mapTable (h : s.WellFormed) (name : String) {f : Table → Table}
    (hf : ∀ t ∈ s.tables, (f t).WellFormed) (hname : ∀ t, (f t).name = t.name) :
    (s.mapTable name f hname).WellFormed := by
  unfold Schema.mapTable
  split
  · exact h
  · rename_i i hi
    refine ⟨fun u hu => ?_, ?_⟩
    · obtain ⟨j, hj, rfl⟩ := List.mem_iff_getElem.1 hu
      rw [List.length_modify] at hj
      rw [List.getElem_modify]
      split
      · exact hf _ (List.getElem_mem hj)
      · exact h.tables _ (List.getElem_mem hj)
    · rw [namedApart_iff_pairwise, map_name_modify hname, ← namedApart_iff_pairwise]
      exact h.names

theorem resolve (h : s.WellFormed) : s.resolve.WellFormed := by
  refine ⟨fun u hu => ?_, h.names.map fun t _ => name_resolveTable s t⟩
  obtain ⟨t, ht, rfl⟩ := List.mem_map.1 hu
  exact wellFormed_resolveTable s (h.tables t ht)

/-- **Resolving links a schema.** -/
theorem linked_resolve (h : s.WellFormed) : s.resolve.Linked := by
  intro r hr
  obtain ⟨u, hu, hr⟩ := List.mem_flatMap.1 hr
  obtain ⟨t, ht, rfl⟩ := List.mem_map.1 hu
  obtain ⟨fk, hfk, hr⟩ := List.mem_filterMap.1 hr
  obtain ⟨⟨v, columns⟩, hd, rfl⟩ := Option.map_eq_some_iff.1 hr
  obtain ⟨hv, hlen⟩ := of_destination?_eq_some ((h.tables t ht).paired fk hfk) hd
  exact ⟨⟨_, List.mem_map_of_mem ht, rfl⟩, ⟨_, List.mem_map_of_mem hv, rfl⟩, hlen.symm⟩

end WellFormed

end Schema

/-! ## Drafts -/

namespace Draft

/-- The key and the constraints that the options of columns declare are added, and
those of the table after them. -/
def constrain (name : String) (ds : List Sql.ColumnDefinition) (cs : List Sql.TableConstraint)
    (p : Progress) : Progress :=
  cs.foldl addTableConstraint
    ((ds.flatMap optionConstraints).foldl addConstraint
      ((inlineKey? name ds).toList.foldl addConstraint p))

section Induction

variable {P : Progress → Prop}

theorem addTableConstraint_induction (constraint : ∀ {p}, P p → ∀ c, P (addConstraint p c))
    {p : Progress} (h : P p) (c : Sql.TableConstraint) : P (addTableConstraint p c) := by
  unfold addTableConstraint
  split
  · exact constraint h _
  · exact h

/-- What is kept as constraints are added is kept as those of a declaration are. -/
theorem constrain_induction (constraint : ∀ {p}, P p → ∀ c, P (addConstraint p c)) {p : Progress}
    (h : P p) (name : String) (ds : List Sql.ColumnDefinition) (cs : List Sql.TableConstraint) :
    P (constrain name ds cs p) := by
  have hkeyed := (inlineKey? name ds).toList.foldlRecOn addConstraint h
    fun _ hp c _ => constraint hp c
  have hinline := (ds.flatMap optionConstraints).foldlRecOn addConstraint hkeyed
    fun _ hp c _ => constraint hp c
  exact cs.foldlRecOn addTableConstraint hinline
    fun _ hp c _ => addTableConstraint_induction constraint hp c

/-- What holds of a table without elements, and is kept as columns and constraints
are added, holds of every table declared. -/
theorem tableOf_induction {c : Sql.CreateTable} (start : P ({ name := relationOf c.name }, []))
    (column : ∀ {p}, P p → ∀ c, P (addColumn p c))
    (constraint : ∀ {p}, P p → ∀ c, P (addConstraint p c)) : P (tableOf c) := by
  have hcolumns := (c.columns.map columnOf).foldlRecOn addColumn start
    fun _ hp d _ => column hp d
  exact constrain_induction constraint hcolumns (relationOf c.name) c.columns c.constraints

theorem alterTable_induction {operations : List Sql.AlterOperation} {t : Table}
    (start : P (t, [])) (constraint : ∀ {p}, P p → ∀ c, P (addConstraint p c)) :
    P (alterTable operations t) :=
  (addedConstraints operations).foldlRecOn addTableConstraint start
    fun _ hp d _ => addTableConstraint_induction constraint hp d

end Induction

theorem wellFormed_tableOf (c : Sql.CreateTable) : (tableOf c).1.WellFormed :=
  tableOf_induction (P := fun p => p.1.WellFormed) (.empty _) Table.WellFormed.offerColumn
    Table.WellFormed.offerConstraint

theorem wellFormed_alterTable (operations : List Sql.AlterOperation) {t : Table}
    (h : t.WellFormed) : (alterTable operations t).1.WellFormed :=
  alterTable_induction (P := fun p => p.1.WellFormed) h Table.WellFormed.offerConstraint

theorem schema_note (d : Draft) (index : Nat) (text : String) (causes : List Notice.Cause) :
    (d.note index text causes).schema = d.schema := rfl

theorem wellFormed_addTable {d : Draft} (h : d.schema.WellFormed) (index : Nat) (text : String)
    {t : Table} (ht : t.WellFormed) : (d.addTable index text t).schema.WellFormed :=
  h.offerTable ht

/-- **Adding a statement keeps a draft's schema well formed.** -/
theorem wellFormed_add {d : Draft} (h : d.schema.WellFormed) (index : Nat) (text : String)
    (statement : Sql.Statement) : (d.add index text statement).schema.WellFormed := by
  cases statement with
  | createTable c =>
    have hd : (d.note index text ((tableOf c).2.map .rejected)).schema.WellFormed := h
    exact wellFormed_addTable hd index text (wellFormed_tableOf c)
  | alterTable name operations =>
    simp only [add]
    split
    · exact h
    · rw [schema_note]
      exact h.mapTable _ (fun t ht => wellFormed_alterTable operations (h.tables t ht))
        (name_alterTable operations)
  | other => exact h

end Draft

end NormalForms
