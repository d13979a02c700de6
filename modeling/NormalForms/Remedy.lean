import NormalForms.Schema.Table

/-!
# Remedies

A remedy is a short script of `Step`s that moves columns into a table of their
own. Creating a table and adding a surrogate key are the only executable steps;
the steps that touch data or drop columns are written as comments, for a person
to review. Every name is quoted, so that each line of a rendered remedy is a
comment, blank, or a line of one of the two executable statements.
-/

namespace NormalForms

open Identifier Text

namespace Remedy

/-- An entry in the definition of a created table. -/
inductive Entry where
  | surrogateKey
  | column (name dataType : String) (notNull isKey : Bool)
  | primaryKey (columns : List String)
  | foreignKey (columns : List String) (target : String) (targetColumns : List String)
  deriving DecidableEq, Repr

inductive Step where
  | note (text : String)
  | blank
  | addSurrogateKey (table : String)
  | createTable (name : String) (entries : List Entry)
  | dropColumn (table column : String)
  deriving DecidableEq, Repr

/-! ## Rendering -/

/-- A text as comments, one for each of its lines that is not empty. -/
def commentLines (text : String) : List String :=
  ((lines text).filter (· != "")).map ("-- " ++ ·)

def Entry.render : Entry → String
  | surrogateKey => "id INT AUTO_INCREMENT PRIMARY KEY"
  | column name dataType notNull isKey =>
    quote name ++ " " ++ dataType ++ (if notNull then " NOT NULL" else "") ++
      if isKey then " PRIMARY KEY" else ""
  | primaryKey columns => "PRIMARY KEY (" ++ quoteList columns ++ ")"
  | foreignKey columns target targetColumns =>
    "FOREIGN KEY (" ++ quoteList columns ++ ") REFERENCES " ++ quote target ++
      if targetColumns.isEmpty then "" else "(" ++ quoteList targetColumns ++ ")"

/-- Indented, with a comma after each entry but the last. -/
def entryLines : List Entry → List String
  | [] => []
  | [e] => ["    " ++ e.render]
  | e :: es => ("    " ++ e.render ++ ",") :: entryLines es

def Step.lines : Step → List String
  | note text => commentLines text
  | blank => [""]
  | addSurrogateKey table =>
    ["ALTER TABLE " ++ quote table ++ " ADD COLUMN id INT AUTO_INCREMENT PRIMARY KEY;"]
  | createTable name entries =>
    ("CREATE TABLE " ++ quote name ++ " (") :: (entryLines entries ++ [");"])
  | dropColumn table column =>
    commentLines ("ALTER TABLE " ++ quote table ++ " DROP COLUMN " ++ quote column ++ ";")

end Remedy

structure Remedy where
  steps : List Remedy.Step
  deriving DecidableEq, Repr

namespace Remedy

def lines (r : Remedy) : List String := r.steps.flatMap Step.lines

def render (r : Remedy) : String := String.intercalate "\n" r.lines

/-! ## Parts of a remedy -/

/-- A column of the table as an entry of another. -/
def Entry.ofColumn (c : Column) (isKey : Bool) : Entry :=
  .column c.name (oneLine c.dataType) (!c.nullable) isKey

/-- The column of the given name as an entry, an integer if it is not declared. -/
def entryNamed (t : Table) (name : String) : Entry :=
  match t.column? name with
  | some c => .ofColumn c false
  | none => .column name "INT" false false

/-- The column by which a new table refers to `t`, with its type: the primary
key if that is a single column, else a surrogate. -/
def parentKey (t : Table) : String × String :=
  match t.keyColumns with
  | [c] => (c.name, oneLine c.dataType)
  | _ => ("id", "INT")

/-- The column of a new table that refers to `t`. -/
def linkName (t : Table) : String := t.name ++ "_id"

def linkEntry (t : Table) : Entry := .column (linkName t) (parentKey t).2 true false

def linkKey (t : Table) : Entry := .foreignKey [linkName t] t.name [(parentKey t).1]

def names (columns : List Column) : List String := columns.map Column.name

def migrationNote : Step := .note "Data migration (review before running):"

/-- The steps that drop the columns once they are moved. -/
def dropSteps (t : Table) (columns : List Column) : List Step :=
  .blank :: .note "After migration, drop the moved columns:" ::
    (names columns).map (.dropColumn t.name)

def insertInto (target : String) (columns : String) : String :=
  "INSERT INTO " ++ quote target ++ " (" ++ columns ++ ")"

/-! ## The remedies -/

/-- Gives a table without a key a numbered one. -/
def surrogateKey (t : Table) : Remedy := ⟨[.addSurrogateKey t.name]⟩

/-- Moves a column of several values into a table with a row for each value. -/
def splitValues (t : Table) (c : Column) (elementType : String) : Remedy :=
  let child := t.name ++ "_" ++ c.name
  let value := c.name ++ "_value"
  ⟨[.note "Move the multi-valued attribute into its own table",
    .createTable child
      [.surrogateKey, linkEntry t, .column value elementType (!c.nullable) false, linkKey t],
    .blank,
    migrationNote,
    .note (insertInto child (quoteList [linkName t, value])),
    .note ("SELECT " ++ quote (parentKey t).1 ++ ", <one row per element of " ++ quote c.name ++
      "> FROM " ++ quote t.name ++ ";")] ++ dropSteps t [c]⟩

/-- Moves numbered columns into a table with a row for each. -/
def splitGroup (t : Table) (base : String) (columns : List Column) : Remedy :=
  let child := t.name ++ "_" ++ base
  let value := base ++ "_value"
  let valueType := match columns with
    | c :: _ => oneLine c.dataType
    | [] => "VARCHAR(255)"
  ⟨[.note "Move the repeating group into its own table",
    .createTable child
      [.surrogateKey, linkEntry t, .column value valueType false false, linkKey t],
    .blank,
    migrationNote] ++
    (names columns).map (fun n => .note (insertInto child (quoteList [linkName t, value]) ++
      " SELECT " ++ quote (parentKey t).1 ++ ", " ++ quote n ++ " FROM " ++ quote t.name ++
      " WHERE " ++ quote n ++ " IS NOT NULL;")) ++
    dropSteps t columns⟩

/-- The steps that copy `key` and the dependent columns of `t` into `target`. -/
def copySteps (t : Table) (target key : String) (dependents : List Column) : List Step :=
  let columns := key ++ ", " ++ quoteList (names dependents)
  [.blank, migrationNote, .note (insertInto target columns),
    .note ("SELECT DISTINCT " ++ columns ++ " FROM " ++ quote t.name ++ ";")]

/-- Moves columns that depend on a foreign key into a table with that key. -/
def splitByForeignKey (t : Table) (fk : ForeignKey) (dependents : List Column) : Remedy :=
  let target := t.name ++ "_" ++ fk.target
  ⟨[.note "Move the partially dependent columns into their own table",
    .createTable target (fk.columns.map (entryNamed t) ++
      dependents.map (Entry.ofColumn · false) ++
      [.primaryKey fk.columns, .foreignKey fk.columns fk.target fk.targetColumns])] ++
    copySteps t target (quoteList fk.columns) dependents ++ dropSteps t dependents⟩

/-- Moves columns that depend on one column into a table `target` with that
column as its key. -/
def splitByColumn (t : Table) (determinant : Column) (dependents : List Column)
    (target heading : String) : Remedy :=
  let key := quote determinant.name
  ⟨[.note heading,
    .createTable target (.ofColumn determinant true :: dependents.map (Entry.ofColumn · false))] ++
    copySteps t target key dependents ++
    [.blank, .note "Link the original table to the new one:",
      .note ("ALTER TABLE " ++ quote t.name ++ " ADD FOREIGN KEY (" ++ key ++ ") REFERENCES " ++
        quote target ++ "(" ++ key ++ ");")] ++
    dropSteps t dependents⟩

/-- Moves the columns of an address into a table of addresses. -/
def splitAddress (t : Table) (columns : List Column) : Remedy :=
  let target := t.name ++ "_address"
  let moved := quoteList (names columns)
  ⟨[.note "Move the address columns into their own table",
    .createTable target ([.surrogateKey, linkEntry t] ++
      columns.map (Entry.ofColumn · false) ++ [linkKey t]),
    .blank,
    migrationNote,
    .note (insertInto target (quote (linkName t) ++ ", " ++ moved)),
    .note ("SELECT " ++ quote (parentKey t).1 ++ ", " ++ moved ++ " FROM " ++ quote t.name ++
      ";")] ++ dropSteps t columns⟩

/-! ## Facts -/

theorem Entry.render_ofColumn (c : Column) : (Entry.ofColumn c false).render = c.definition := by
  rcases c with ⟨name, dataType, nullable, d⟩
  cases nullable
  · exact String.append_empty
  · exact String.append_empty

end Remedy

end NormalForms
