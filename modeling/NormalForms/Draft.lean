import NormalForms.Identifier.Qualified
import NormalForms.Notice
import NormalForms.Schema
import NormalForms.Sql.Statement

/-!
# Drafts

A draft is a schema that is built from statements one by one, with a notice for
everything that had to be left out. `CREATE TABLE` adds a table, as far as its
elements can stand beside each other; `ALTER TABLE` adds constraints to a table
that is there; every other statement is passed over. `finish` resolves the
foreign keys.
-/

namespace NormalForms

open Identifier Sql

structure Draft where
  schema : Schema
  notices : List Notice := []
  deriving DecidableEq, Repr

namespace Draft

def empty (name : String) : Draft := { schema := .empty name }

/-! ## Elements of a table -/

def constraintName (name : Option Name) : Option String := name.map Name.value

def relationOf (name : DottedName) : String := relation name.render

def columnsOf (names : List Name) : List String := names.map fun n => keyColumn n.render

def keyColumnsOf (columns : List KeyColumn) : List String :=
  columns.map fun c => keyColumn c.render

/-- The columns of the table that an expression mentions, spelled as declared. -/
def checkedColumns (t : Table) (e : Expr) : List String :=
  e.mentioned.filterMap fun name => (t.column? name).map Column.name

def default? : ColumnOption → Option String
  | .default e => some e.render
  | _ => none

def isNotNull : ColumnOption → Bool
  | .notNull => true
  | _ => false

def isPrimaryKey : ColumnOption → Bool
  | .primaryKey => true
  | _ => false

def columnOf (d : ColumnDefinition) : Column where
  name := d.name.value
  dataType := d.type.render
  nullable := !d.options.any fun o => isNotNull o.2
  default? := d.options.findSome? fun o => default? o.2

/-- The constraint that an option of a column declares, but for primary keys. -/
def optionConstraint? (column : String) : Option Name × ColumnOption → Option Constraint
  | (name, .unique) => some (.unique (constraintName name) [column])
  | (name, .references target columns) =>
    some (.foreignKey
      { name := constraintName name
        columns := [column]
        target := relationOf target
        targetColumns := columnsOf columns })
  | (name, .check e) => some (.check (constraintName name) [column] e.render)
  | _ => none

def optionConstraints (d : ColumnDefinition) : List Constraint :=
  d.options.filterMap (optionConstraint? d.name.value)

/-- The columns declared primary keys by options of their own, once for each
such option. -/
def inlineKeyColumns (ds : List ColumnDefinition) : List String :=
  ds.flatMap fun d => (d.options.filter fun o => isPrimaryKey o.2).map fun _ => d.name.value

/-- The one primary key that the options of the columns declare together. -/
def inlineKey? (table : String) (ds : List ColumnDefinition) : Option Constraint :=
  match inlineKeyColumns ds with
  | [] => none
  | columns => some (.primaryKey (some ("pk_" ++ table)) columns)

/-- The constraint that a table constraint declares on `t`. -/
def tableConstraint? (t : Table) : TableConstraint → Option Constraint
  | .primaryKey name columns => some (.primaryKey (constraintName name) (keyColumnsOf columns))
  | .unique name columns => some (.unique (constraintName name) (keyColumnsOf columns))
  | .foreignKey name columns target targetColumns =>
    some (.foreignKey
      { name := constraintName name
        columns := columnsOf columns
        target := relationOf target
        targetColumns := columnsOf targetColumns })
  | .check name e => some (.check (constraintName name) (checkedColumns t e) e.render)
  | .index => none

/-! ## Tables under construction -/

/-- A table and what was refused on the way to it, in order. -/
abbrev Progress := Table × List Rejection

/-- The table that a call leaves, with one more refusal if the call was refused. -/
def Progress.record (p : Progress) (answer : Answer Table) : Progress :=
  (answer.1, p.2 ++ answer.2.toList)

def addColumn (p : Progress) (c : Column) : Progress := p.record (p.1.offerColumn c)

def addConstraint (p : Progress) (c : Constraint) : Progress := p.record (p.1.offerConstraint c)

def addTableConstraint (p : Progress) (c : TableConstraint) : Progress :=
  match tableConstraint? p.1 c with
  | some c => addConstraint p c
  | none => p

/-- The columns come first, then the inline key, the other inline constraints,
and the constraints of the table. -/
def tableOf (c : CreateTable) : Progress :=
  let name := relationOf c.name
  let columns := (c.columns.map columnOf).foldl addColumn ({ name }, [])
  let keyed := (inlineKey? name c.columns).toList.foldl addConstraint columns
  let inline := (c.columns.flatMap optionConstraints).foldl addConstraint keyed
  c.constraints.foldl addTableConstraint inline

/-- The constraints that an `ALTER TABLE` adds. -/
def addedConstraints (operations : List AlterOperation) : List TableConstraint :=
  operations.filterMap fun
    | .addConstraint c => some c
    | .other => none

def alterTable (operations : List AlterOperation) (t : Table) : Progress :=
  (addedConstraints operations).foldl addTableConstraint (t, [])

theorem name_addTableConstraint (p : Progress) (c : TableConstraint) :
    (addTableConstraint p c).1.name = p.1.name := by
  unfold addTableConstraint
  split
  · exact Table.name_offerConstraint _ _
  · rfl

theorem name_alterTable (operations : List AlterOperation) (t : Table) :
    (alterTable operations t).1.name = t.name :=
  (addedConstraints operations).foldlRecOn (motive := fun p => p.1.name = t.name)
    addTableConstraint rfl fun p hp c _ => (name_addTableConstraint p c).trans hp

/-! ## Statements -/

/-- Records why the statement at `index`, or a part of it, was left out. -/
def note (d : Draft) (index : Nat) (text : String) (causes : List Notice.Cause) : Draft :=
  { d with notices := d.notices ++ causes.map fun cause => ⟨index, Text.trimmed text, cause⟩ }

/-- Offers a table to the schema. -/
def addTable (d : Draft) (index : Nat) (text : String) (t : Table) : Draft :=
  { d with schema := (d.schema.offerTable t).1 }.note index text
    ((d.schema.offerTable t).2.toList.map .rejected)

def add (d : Draft) (index : Nat) (text : String) : Statement → Draft
  | .createTable c =>
    (d.note index text ((tableOf c).2.map .rejected)).addTable index text (tableOf c).1
  | .alterTable name operations =>
    let target := relationOf name
    match d.schema.table? target with
    | none => d.note index text [.unknownTable target]
    | some t =>
      { d with
        schema := d.schema.mapTable target (fun t => (alterTable operations t).1)
          (name_alterTable operations) }.note
        index text ((alterTable operations t).2.map .rejected)
  | .other => d

def addAll (d : Draft) (index : Nat) (text : String) (statements : List Statement) : Draft :=
  statements.foldl (fun d s => d.add index text s) d

def finish (d : Draft) : Draft := { d with schema := d.schema.resolve }

/-! ## Facts -/

section Facts

variable {p : Progress} {t : Table} {r : Rejection}

theorem addColumn_of_ok {c : Column} (h : p.1.addColumn c = .ok t) : addColumn p c = (t, p.2) := by
  rw [addColumn, Table.offerColumn_of_ok h]
  exact Prod.ext rfl (List.append_nil _)

theorem addColumn_of_error {c : Column} (h : p.1.addColumn c = .error r) :
    addColumn p c = (p.1, p.2 ++ [r]) := by
  rw [addColumn, Table.offerColumn_of_error h]
  rfl

theorem addConstraint_of_ok {c : Constraint} (h : p.1.addConstraint c = .ok t) :
    addConstraint p c = (t, p.2) := by
  rw [addConstraint, Table.offerConstraint_of_ok h]
  exact Prod.ext rfl (List.append_nil _)

theorem addConstraint_of_error {c : Constraint} (h : p.1.addConstraint c = .error r) :
    addConstraint p c = (p.1, p.2 ++ [r]) := by
  rw [addConstraint, Table.offerConstraint_of_error h]
  rfl

end Facts

section Facts

variable {d : Draft} {index : Nat} {text : String} {t : Table}

theorem note_nil (d : Draft) : d.note index text [] = d := by
  rw [note, List.map_nil, List.append_nil]

theorem note_note (d : Draft) (causes more : List Notice.Cause) :
    (d.note index text causes).note index text more = d.note index text (causes ++ more) := by
  simp only [note, List.map_append, List.append_assoc]

theorem addTable_of_ok {s : Schema} (h : d.schema.addTable t = .ok s) :
    d.addTable index text t = { d with schema := s } := by
  rw [addTable, Schema.offerTable_of_ok h]
  exact note_nil _

theorem addTable_of_error {r : Rejection} (h : d.schema.addTable t = .error r) :
    d.addTable index text t = d.note index text [.rejected r] := by
  rw [addTable, Schema.offerTable_of_error h]
  rfl

end Facts

end Draft

end NormalForms
