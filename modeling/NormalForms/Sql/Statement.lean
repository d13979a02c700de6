import NormalForms.Sql.Expr

/-!
# Statements

The statements that define tables, and all others as `other`, which say nothing
about tables and columns.
-/

namespace NormalForms.Sql

/-- A column of a key: an expression, with a class of operators or an order
after it perhaps. -/
structure KeyColumn where
  expr : Expr
  operatorClass : Option Name := none
  /-- The words of the order, each after a space. -/
  order : String := ""
  deriving Repr

def KeyColumn.render (k : KeyColumn) : String :=
  k.expr.render ++ k.order ++ ((k.operatorClass.map fun n => " " ++ n.render).getD "")

inductive ColumnOption where
  | null
  | notNull
  | default (value : Expr)
  | primaryKey
  | unique
  | references (target : DottedName) (columns : List Name)
  | check (condition : Expr)
  /-- An option that says nothing about constraints. -/
  | other
  deriving Repr

structure ColumnDefinition where
  name : Name
  type : DataType
  /-- Each option with the name of its constraint. -/
  options : List (Option Name × ColumnOption) := []
  deriving Repr

inductive TableConstraint where
  | primaryKey (name : Option Name) (columns : List KeyColumn)
  | unique (name : Option Name) (columns : List KeyColumn)
  | foreignKey (name : Option Name) (columns : List Name) (target : DottedName)
      (targetColumns : List Name)
  | check (name : Option Name) (condition : Expr)
  /-- An index, which constrains nothing. -/
  | index
  deriving Repr

structure CreateTable where
  name : DottedName
  columns : List ColumnDefinition
  constraints : List TableConstraint
  deriving Repr

inductive AlterOperation where
  | addConstraint (constraint : TableConstraint)
  /-- A change of the table's columns or its name. -/
  | other
  deriving Repr

inductive Statement where
  | createTable (table : CreateTable)
  | alterTable (name : DottedName) (operations : List AlterOperation)
  | other
  deriving Repr

end NormalForms.Sql
