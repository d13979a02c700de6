import NormalForms.Schema.Column

/-!
# Tables

A table holds columns of pairwise different names, constraints with at most one
primary key among them, and the relationships that its schema has found for its
foreign keys. `offerColumn` and `offerConstraint` are the only ways in: each
leaves a table, and says why if it refused what it was offered. `addColumn` and
`addConstraint` are the same for callers that give up at a refusal.
-/

namespace NormalForms

open Identifier

/-- Why an element of a schema is refused. -/
inductive Rejection where
  | duplicateTable (table : String)
  | duplicateColumn (table column : String)
  | secondPrimaryKey (table : String)
  | unpairedForeignKey (table : String) (columns referenced : Nat)
  deriving DecidableEq, Repr

def Rejection.message : Rejection → String
  | duplicateTable table => "table '" ++ table ++ "' is declared more than once"
  | duplicateColumn table column =>
    "column '" ++ column ++ "' is declared more than once in table '" ++ table ++ "'"
  | secondPrimaryKey table => "table '" ++ table ++ "' already has a primary key"
  | unpairedForeignKey table columns referenced =>
    "foreign key on '" ++ table ++ "' pairs " ++ columns.repr ++ " column(s) with " ++
      referenced.repr ++ " referenced column(s)"

/-- What a call leaves of the thing it was made on, and why it was refused if it
was. -/
abbrev Answer (α : Type) := α × Option Rejection

/-- The thing as a call leaves it, for callers that give up at a refusal. -/
def Answer.toExcept {α : Type} : Answer α → Except Rejection α
  | (a, none) => .ok a
  | (_, some r) => .error r

section Answer

variable {α : Type} {answer : Answer α}

theorem Answer.toExcept_eq_ok_iff {a : α} : answer.toExcept = .ok a ↔ answer = (a, none) := by
  obtain ⟨b, _ | r⟩ := answer <;> simp [toExcept]

theorem Answer.toExcept_eq_error_iff {r : Rejection} :
    answer.toExcept = .error r ↔ answer.2 = some r := by
  obtain ⟨b, _ | r⟩ := answer <;> simp [toExcept]

end Answer

structure Table where
  name : String
  columns : List Column := []
  constraints : List Constraint := []
  relationships : List Relationship := []
  deriving DecidableEq, Repr

namespace Table

/-! ## Looking up -/

def column? (t : Table) (name : String) : Option Column :=
  t.columns.find? fun c => c.hasName name

/-- The columns of the primary key as declared, if there is one. -/
def primaryKey? (t : Table) : Option (List String) :=
  t.constraints.findSome? Constraint.primaryKey?

/-- The names in the primary key; none without a primary key. -/
def keyNames (t : Table) : List String := t.primaryKey?.getD []

/-- The columns of the table that the primary key names, in key order. -/
def keyColumns (t : Table) : List Column := t.keyNames.filterMap t.column?

def inPrimaryKey (t : Table) (column : String) : Bool :=
  t.keyNames.any fun c => same c column

/-- The columns outside the primary key, in declaration order. -/
def plainColumns (t : Table) : List Column :=
  t.columns.filter fun c => !t.inPrimaryKey c.name

def foreignKeys (t : Table) : List ForeignKey := t.constraints.filterMap Constraint.foreignKey?

def inForeignKey (t : Table) (column : String) : Bool :=
  t.foreignKeys.any fun fk => fk.covers column

def uniqueConstraints (t : Table) : List Constraint := t.constraints.filter Constraint.isUnique

/-! ## Building -/

/-- Appends a column whose name is new to the table. -/
def offerColumn (t : Table) (c : Column) : Answer Table :=
  if (t.column? c.name).isSome then (t, some (.duplicateColumn t.name c.name))
  else ({ t with columns := t.columns ++ [c] }, none)

def addColumn (t : Table) (c : Column) : Except Rejection Table := (t.offerColumn c).toExcept

/-- What speaks against adding a constraint: a primary key beside another, or a
foreign key that does not pair its columns with those it refers to. -/
def objection? (t : Table) : Constraint → Option Rejection
  | .primaryKey _ _ => if t.primaryKey?.isSome then some (.secondPrimaryKey t.name) else none
  | .foreignKey fk =>
    if fk.targetColumns.isEmpty || fk.targetColumns.length == fk.columns.length then none
    else some (.unpairedForeignKey t.name fk.columns.length fk.targetColumns.length)
  | .unique _ _ | .check _ _ _ => none

def offerConstraint (t : Table) (c : Constraint) : Answer Table :=
  match t.objection? c with
  | some r => (t, some r)
  | none => ({ t with constraints := t.constraints ++ [c] }, none)

def addConstraint (t : Table) (c : Constraint) : Except Rejection Table :=
  (t.offerConstraint c).toExcept

/-- A table of the given columns and constraints, or the first objection. -/
def ofParts (name : String) (columns : List Column) (constraints : List Constraint) :
    Except Rejection Table := do
  let t ← columns.foldlM addColumn { name }
  constraints.foldlM addConstraint t

/-! ## Facts -/

section Facts

variable {t t' : Table} {c : Column} {k : Constraint} {r : Rejection}

theorem addColumn_eq_ok_iff :
    t.addColumn c = .ok t' ↔
      t.column? c.name = none ∧ t' = { t with columns := t.columns ++ [c] } := by
  rw [addColumn, Answer.toExcept_eq_ok_iff, offerColumn]
  cases h : t.column? c.name <;> simp [eq_comm]

theorem addColumn_eq_error_iff :
    t.addColumn c = .error r ↔
      (t.column? c.name).isSome = true ∧ r = .duplicateColumn t.name c.name := by
  rw [addColumn, Answer.toExcept_eq_error_iff, offerColumn]
  cases h : t.column? c.name <;> simp [eq_comm]

theorem addConstraint_eq_ok_iff :
    t.addConstraint k = .ok t' ↔
      t.objection? k = none ∧ t' = { t with constraints := t.constraints ++ [k] } := by
  rw [addConstraint, Answer.toExcept_eq_ok_iff, offerConstraint]
  cases h : t.objection? k <;> simp [eq_comm]

theorem addConstraint_eq_error_iff : t.addConstraint k = .error r ↔ t.objection? k = some r := by
  rw [addConstraint, Answer.toExcept_eq_error_iff, offerConstraint]
  cases h : t.objection? k <;> simp

/-- A column that is refused leaves the table as it was. -/
theorem offerColumn_of_refused (h : (t.offerColumn c).2 = some r) : (t.offerColumn c).1 = t := by
  unfold offerColumn at h ⊢
  split
  · rfl
  · rename_i hnew
    rw [if_neg hnew] at h
    cases h

/-- A constraint that is refused leaves the table as it was. -/
theorem offerConstraint_of_refused (h : (t.offerConstraint k).2 = some r) :
    (t.offerConstraint k).1 = t := by
  unfold offerConstraint at h ⊢
  split
  · rfl
  · rename_i hno
    rw [hno] at h
    cases h

theorem offerColumn_of_ok (h : t.addColumn c = .ok t') : t.offerColumn c = (t', none) :=
  Answer.toExcept_eq_ok_iff.1 h

theorem offerColumn_of_error (h : t.addColumn c = .error r) : t.offerColumn c = (t, some r) := by
  have hr := Answer.toExcept_eq_error_iff.1 h
  exact Prod.ext (offerColumn_of_refused hr) hr

theorem offerConstraint_of_ok (h : t.addConstraint k = .ok t') :
    t.offerConstraint k = (t', none) :=
  Answer.toExcept_eq_ok_iff.1 h

theorem offerConstraint_of_error (h : t.addConstraint k = .error r) :
    t.offerConstraint k = (t, some r) := by
  have hr := Answer.toExcept_eq_error_iff.1 h
  exact Prod.ext (offerConstraint_of_refused hr) hr

theorem name_addColumn (h : t.addColumn c = .ok t') : t'.name = t.name := by
  rw [(addColumn_eq_ok_iff.1 h).2]

theorem name_addConstraint (h : t.addConstraint k = .ok t') : t'.name = t.name := by
  rw [(addConstraint_eq_ok_iff.1 h).2]

theorem name_offerConstraint (t : Table) (k : Constraint) :
    (t.offerConstraint k).1.name = t.name := by
  unfold offerConstraint
  split <;> rfl

end Facts

end Table

end NormalForms
