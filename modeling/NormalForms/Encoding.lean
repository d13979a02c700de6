import NormalForms.Assessment
import NormalForms.Json

/-!
# Schemas and assessments as JSON

The members of each object have a fixed order. A member is left out where there
is nothing to say: a default, a name, a suggestion or a remedy that is absent,
relationships or notices when there are none.
-/

namespace NormalForms

namespace Column

def toJson (c : Column) : Json :=
  .obj ([("name", .str c.name), ("data_type", .str c.dataType), ("nullable", .bool c.nullable)] ++
    Json.member? "default_value" c.default?)

end Column

/-- The members that a foreign key has in every place. -/
def ForeignKey.members (fk : ForeignKey) : List (String × Json) :=
  Json.member? "name" fk.name ++
    [("columns", .strings fk.columns), ("referenced_table", .str fk.target),
      ("referenced_columns", .strings fk.targetColumns)]

def ForeignKey.toJson (fk : ForeignKey) : Json := .obj fk.members

/-- The kind comes first. -/
def Constraint.toJson : Constraint → Json
  | primaryKey name columns =>
    .obj (("kind", .str "primary_key") :: Json.member? "name" name ++
      [("columns", .strings columns)])
  | foreignKey key => .obj (("kind", .str "foreign_key") :: key.members)
  | unique name columns =>
    .obj (("kind", .str "unique") :: Json.member? "name" name ++ [("columns", .strings columns)])
  | check name columns expression =>
    .obj (("kind", .str "check") :: Json.member? "name" name ++
      [("columns", .strings columns), ("expression", .str expression)])

def Relationship.toJson (r : Relationship) : Json :=
  .obj [("source_table", .str r.source), ("target_table", .str r.target),
    ("source_columns", .strings r.sourceColumns), ("target_columns", .strings r.targetColumns)]

def Table.toJson (t : Table) : Json :=
  .obj ([("name", .str t.name), ("columns", .arr (t.columns.map Column.toJson)),
    ("constraints", .arr (t.constraints.map Constraint.toJson))] ++
    if t.relationships.isEmpty then []
    else [("relationships", .arr (t.relationships.map Relationship.toJson))])

def Schema.toJson (s : Schema) : Json :=
  .obj [("name", .str s.name), ("tables", .arr (s.tables.map Table.toJson))]

/-- A form or null. -/
def Form.toJson? (form : Option Form) : Json := Json.text? (form.map Form.label)

def Finding.toJson (f : Finding) : Json :=
  .obj ([("violated_form", .str f.form.label), ("kind", .str f.kind.tag),
    ("table_name", .str f.table)] ++ Json.member? "column_name" f.columnText? ++
    [("description", .str f.description)] ++ Json.member? "suggestion" f.suggestion? ++
    Json.member? "fix_sql" f.remedy?)

def Notice.toJson (n : Notice) : Json :=
  .obj [("statement_index", .num n.index), ("statement", .str n.statement),
    ("message", .str n.message)]

def Assessment.toJson (a : Assessment) : Json :=
  .obj ([("schema", a.schema.toJson), ("achieved_form", Form.toJson? a.achieved),
    ("issues_by_form", .obj (Form.all.map fun form =>
      (form.label, .arr ((a.findings form).map Finding.toJson))))] ++
    if a.notices.isEmpty then [] else [("warnings", .arr (a.notices.map Notice.toJson))])

end NormalForms
