import NormalForms.Identifier

/-!
# Columns, constraints and relationships

What a table is made of. Names and types are texts as the declaration gives
them; columns are looked up by `Identifier.same`.
-/

namespace NormalForms

open Identifier

/-- A declared column. `dataType` is the rendered type, `nullable` is false for
a column declared not null, `default?` is the rendered default expression. -/
structure Column where
  name : String
  dataType : String
  nullable : Bool := true
  default? : Option String := none
  deriving DecidableEq, Repr

namespace Column

def hasName (c : Column) (name : String) : Bool := same c.name name

/-- The column as an entry of a table definition, on one line. -/
def definition (c : Column) : String :=
  quote c.name ++ " " ++ Text.oneLine c.dataType ++ if c.nullable then "" else " NOT NULL"

end Column

/-- Columns of one table that refer to columns of another. An empty list of
referenced columns stands for the other table's primary key. -/
structure ForeignKey where
  name : Option String := none
  columns : List String
  target : String
  targetColumns : List String := []
  deriving DecidableEq, Repr

/-- Is `column` one of the referring columns? -/
def ForeignKey.covers (fk : ForeignKey) (column : String) : Bool :=
  fk.columns.any fun c => same c column

inductive Constraint where
  | primaryKey (name : Option String) (columns : List String)
  | foreignKey (key : ForeignKey)
  | unique (name : Option String) (columns : List String)
  | check (name : Option String) (columns : List String) (expression : String)
  deriving DecidableEq, Repr

namespace Constraint

def name? : Constraint → Option String
  | primaryKey name _ | unique name _ | check name _ _ => name
  | foreignKey key => key.name

/-- The columns the constraint is about. -/
def columns : Constraint → List String
  | primaryKey _ columns | unique _ columns | check _ columns _ => columns
  | foreignKey key => key.columns

def keyword : Constraint → String
  | primaryKey _ _ => "PRIMARY KEY"
  | foreignKey _ => "FOREIGN KEY"
  | unique _ _ => "UNIQUE"
  | check _ _ _ => "CHECK"

/-- The columns of a primary key. -/
def primaryKey? : Constraint → Option (List String)
  | primaryKey _ columns => some columns
  | _ => none

def foreignKey? : Constraint → Option ForeignKey
  | foreignKey key => some key
  | _ => none

def isUnique : Constraint → Bool
  | unique _ _ => true
  | _ => false

end Constraint

/-- A foreign key whose target is a table of the schema. -/
structure Relationship where
  source : String
  target : String
  sourceColumns : List String
  targetColumns : List String
  deriving DecidableEq, Repr

end NormalForms
