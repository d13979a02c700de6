import NormalForms.Schema.Table

/-!
# Schemas

A schema is a list of tables of pairwise different names, and an index that says
where to find the table of a name. That the index agrees with the list is part of
every schema: whatever adds or changes tables proves it anew.

`resolve` follows the foreign keys: it writes the target's primary key into those
that leave their referenced columns open, as far as the numbers of columns agree,
and records a relationship for each foreign key that leads to a table of the
schema.
-/

namespace NormalForms

open Identifier

/-- The keys of names, each with the position of its name. -/
def Schema.positions (names : List String) : List (String × Nat) :=
  names.zipIdx.map fun e => (key e.1, e.2)

structure Schema where
  name : String
  tables : List Table := []
  index : List (String × Nat) := Schema.positions (tables.map Table.name)
  indexed : index = Schema.positions (tables.map Table.name) := by exact rfl
  deriving DecidableEq, Repr

namespace Schema

abbrev empty (name : String) : Schema := { name }

/-! ## The index -/

theorem positions_concat (names : List String) (n : String) :
    positions (names ++ [n]) = positions names ++ [(key n, names.length)] := by
  rw [positions, List.zipIdx_append, List.map_append, Nat.zero_add]
  rfl

theorem map_name_modify {f : Table → Table} (hf : ∀ t, (f t).name = t.name)
    (tables : List Table) (i : Nat) :
    (tables.modify i f).map Table.name = tables.map Table.name := by
  induction tables generalizing i with
  | nil => cases i <;> rfl
  | cons t tables ih => cases i with
    | zero => rw [List.modify_zero_cons, List.map_cons, List.map_cons, hf]
    | succ i => rw [List.modify_succ_cons, List.map_cons, List.map_cons, ih]

/-- The position noted for the key of a name. -/
def position? (s : Schema) (name : String) : Option Nat := s.index.lookup (key name)

def table? (s : Schema) (name : String) : Option Table :=
  (s.position? name).bind fun i => s.tables[i]?

/-! ## Adding and changing tables -/

/-- Appends a table whose name is new to the schema. Relationships stay as they
are until the next `resolve`. -/
def offerTable (s : Schema) (t : Table) : Answer Schema :=
  if (s.position? t.name).isSome then (s, some (.duplicateTable t.name))
  else
    ({ s with
        index := s.index ++ [(key t.name, s.tables.length)]
        tables := s.tables ++ [t]
        indexed := by
          rw [s.indexed, List.map_append, List.map_singleton, positions_concat, List.length_map] },
      none)

def addTable (s : Schema) (t : Table) : Except Rejection Schema := (s.offerTable t).toExcept

/-- Changes the table of the given name, which keeps its name. -/
def mapTable (s : Schema) (name : String) (f : Table → Table) (hf : ∀ t, (f t).name = t.name) :
    Schema :=
  match s.position? name with
  | none => s
  | some i =>
    { s with
      tables := s.tables.modify i f
      indexed := by rw [s.indexed, map_name_modify hf] }

/-- Every relationship found, grouped by the table it starts from. -/
def relationships (s : Schema) : List Relationship := s.tables.flatMap Table.relationships

/-! ## Resolving foreign keys -/

/-- The table a foreign key leads to and the columns it means there: those it
lists, or else the table's primary key if it has as many columns. -/
def destination? (s : Schema) (fk : ForeignKey) : Option (Table × List String) :=
  match s.table? fk.target with
  | none => none
  | some t =>
    if fk.targetColumns.isEmpty then
      if t.keyNames.length = fk.columns.length then some (t, t.keyNames) else none
    else some (t, fk.targetColumns)

/-- The foreign key with the columns it means. -/
def completeKey (s : Schema) (fk : ForeignKey) : ForeignKey :=
  match s.destination? fk with
  | none => fk
  | some (_, columns) => { fk with targetColumns := columns }

def complete (s : Schema) : Constraint → Constraint
  | .foreignKey fk => .foreignKey (s.completeKey fk)
  | c => c

/-- The relationship that a foreign key of the table `source` stands for. -/
def relationship? (s : Schema) (source : String) (fk : ForeignKey) : Option Relationship :=
  (s.destination? fk).map fun d => ⟨source, d.1.name, fk.columns, d.2⟩

def resolveTable (s : Schema) (t : Table) : Table :=
  { t with
    constraints := t.constraints.map s.complete
    relationships := t.foreignKeys.filterMap (s.relationship? t.name) }

/-- Completes every foreign key and finds every relationship anew. -/
def resolve (s : Schema) : Schema :=
  { s with
    tables := s.tables.map s.resolveTable
    indexed := by rw [s.indexed, List.map_map]; rfl }

/-- A resolved schema of the given tables, or the first name that repeats. -/
def ofTables (name : String) (tables : List Table) : Except Rejection Schema :=
  (tables.foldlM addTable (empty name)).map resolve

/-! ## Facts -/

/-- Two schemas of one name are the same if their tables are. -/
@[ext] theorem ext {s s' : Schema} (hname : s.name = s'.name) (htables : s.tables = s'.tables) :
    s = s' := by
  obtain ⟨name, tables, index, rfl⟩ := s
  obtain ⟨name', tables', index', rfl⟩ := s'
  cases hname
  cases htables
  rfl

theorem lookup_zipIdx (names : List String) (k : Nat) (n : String) :
    ((names.zipIdx k).map fun e => (key e.1, e.2)).lookup (key n) =
      (names.findIdx? fun m => same m n).map (· + k) := by
  induction names generalizing k with
  | nil => rfl
  | cons m names ih =>
    rw [List.zipIdx_cons, List.map_cons, List.lookup_cons, List.findIdx?_cons]
    cases h : same m n with
    | true =>
      rw [same_iff.1 h, beq_self_eq_true]
      simp
    | false =>
      have hne : (key n == key m) = false := by rw [BEq.comm]; exact h
      rw [hne]
      simp only [Bool.false_eq_true, if_false]
      rw [ih (k + 1), Option.map_map]
      congr 1
      funext i
      show i + (k + 1) = i + 1 + k
      omega

/-- **The index is right**: it notes where the table of a name stands. -/
theorem position?_eq_findIdx? (s : Schema) (n : String) :
    s.position? n = s.tables.findIdx? fun t => same t.name n := by
  rw [position?, s.indexed, positions, lookup_zipIdx, List.findIdx?_map]
  exact Option.map_id'

/-- What the index leads to is what a search of the list finds. -/
theorem table?_eq_find? (s : Schema) (n : String) :
    s.table? n = s.tables.find? fun t => same t.name n := by
  rw [table?, position?_eq_findIdx?, List.find?_eq_bind_findIdx?_getElem?]

theorem isSome_position? (s : Schema) (n : String) :
    (s.position? n).isSome = (s.table? n).isSome := by
  rw [position?_eq_findIdx?, table?_eq_find?, List.findIdx?_isSome, List.isSome_find?]

theorem addTable_eq_ok_iff {s s' : Schema} {t : Table} :
    s.addTable t = .ok s' ↔
      s.table? t.name = none ∧ s' = { name := s.name, tables := s.tables ++ [t] } := by
  rw [addTable, Answer.toExcept_eq_ok_iff, offerTable, isSome_position?]
  cases h : s.table? t.name with
  | none => simp [Schema.ext_iff, Prod.ext_iff, eq_comm]
  | some u => simp

/-- A table that is refused leaves the schema as it was. -/
theorem offerTable_of_refused {s : Schema} {t : Table} {r : Rejection}
    (h : (s.offerTable t).2 = some r) : (s.offerTable t).1 = s := by
  unfold offerTable at h ⊢
  split
  · rfl
  · rename_i hnew
    rw [if_neg hnew] at h
    cases h

theorem offerTable_of_ok {s s' : Schema} {t : Table} (h : s.addTable t = .ok s') :
    s.offerTable t = (s', none) :=
  Answer.toExcept_eq_ok_iff.1 h

theorem offerTable_of_error {s : Schema} {t : Table} {r : Rejection} (h : s.addTable t = .error r) :
    s.offerTable t = (s, some r) := by
  have hr := Answer.toExcept_eq_error_iff.1 h
  exact Prod.ext (offerTable_of_refused hr) hr

theorem name_mapTable (s : Schema) (name : String) {f : Table → Table}
    (hf : ∀ t, (f t).name = t.name) : (s.mapTable name f hf).name = s.name := by
  unfold mapTable
  split <;> rfl

theorem name_resolveTable (s : Schema) (t : Table) : (s.resolveTable t).name = t.name := rfl

theorem primaryKey?_complete (s : Schema) (c : Constraint) :
    (s.complete c).primaryKey? = c.primaryKey? := by
  cases c <;> rfl

/-- Resolving leaves primary keys alone. -/
theorem primaryKey?_resolveTable (s : Schema) (t : Table) :
    (s.resolveTable t).primaryKey? = t.primaryKey? := by
  have h : Constraint.primaryKey? ∘ s.complete = Constraint.primaryKey? :=
    funext fun c => primaryKey?_complete s c
  simp only [Table.primaryKey?, resolveTable, List.findSome?_map, h]

end Schema

end NormalForms
