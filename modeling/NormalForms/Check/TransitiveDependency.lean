import NormalForms.Check.PartialDependency

/-!
# Third normal form

A column outside the key may depend on another such column. The check looks for
columns of one entity beside a column that identifies it, for codes with
labels, for addresses, for amounts that derive from others, and for identifiers
that could be foreign keys. It is made only where there is no finding of the
lower forms that blocks it; otherwise those findings are returned as they are.
-/

namespace NormalForms.TransitiveDependency

open Naming

/-- The table that a determinant would be the key of: its name up to the last
underscore. -/
def lookupName (determinant : String) : String :=
  let stem := (determinant.toList.reverse.dropWhile (· != '_')).drop 1
  if stem.isEmpty then determinant ++ "_lookup" else String.ofList stem.reverse

def dependencyFinding (t : Table) (determinant : Column) (dependents : List Column) : Finding :=
  { form := .third
    kind := .transitiveDependency
    table := t.name
    columnText? := some (String.intercalate ", " (Remedy.names dependents))
    description := "Potential transitive dependency detected: these columns may depend on " ++
      "non-key attribute " ++ determinant.name ++ " rather than directly on the primary key"
    suggestion? := some
      ("Consider moving these columns to a separate table keyed by " ++ determinant.name)
    remedy? := some (Remedy.splitByColumn t determinant dependents (lookupName determinant.name)
      "Move the transitively dependent columns into a lookup table").render }

/-- The finding about the dependents of a column, if it has any. -/
def dependencyFinding? (t : Table) (determinant : Column) (dependents : List Column) :
    Option Finding :=
  if dependents.isEmpty then none else some (dependencyFinding t determinant dependents)

/-- The columns of a list that are not the given one. -/
def others (c : Column) (cs : List Column) : List Column := cs.filter fun d => !d.hasName c.name

/-! ## Entities -/

/-- The entity of a column, unless its name is too short to tell. -/
def groupEntity? (c : Column) : Option String :=
  (entity? c.name).filter fun base => 2 ≤ Text.byteLength base

/-- The columns outside the key that belong to an entity. -/
def entityMembers (t : Table) (entity : String) : List Column :=
  t.plainColumns.filter fun c => groupEntity? c == some entity

/-- The finding that an entity has a column that identifies it among others. -/
def entityFinding? (t : Table) (entity : String) : Option Finding :=
  if (entityMembers t entity).length < 2 then none
  else
    ((entityMembers t entity).find? fun c => identifies c.name).map fun determinant =>
      dependencyFinding t determinant (others determinant (entityMembers t entity))

def entityFindings (t : Table) : List Finding :=
  (t.plainColumns.filterMap groupEntity?).eraseDups.filterMap (entityFinding? t)

/-! ## Codes and their labels -/

def labelFinding? (t : Table) (code : Column) : Option Finding :=
  match identified? code.name with
  | none => none
  | some base =>
    if base = "" then none
    else
      dependencyFinding? t code ((others code t.plainColumns).filter fun c =>
        Text.startsWith (Text.lower c.name) (base ++ "_") && isLabel c.name)

/-! ## Addresses -/

def addressColumns (t : Table) : List Column := t.plainColumns.filter fun c => isAddress c.name

def inlineAddress (t : Table) : Finding :=
  { form := .third
    kind := .addressDenormalization
    table := t.name
    columnText? := some (String.intercalate ", " (Remedy.names (addressColumns t)))
    description := "Address information could be normalized into a separate table"
    suggestion? := some "Consider moving the address columns into their own table"
    remedy? := some (Remedy.splitAddress t (addressColumns t)).render }

/-- Three parts of an address are one entity; a reference among them is what
the others depend on. -/
def addressFindings (t : Table) : List Finding :=
  if (addressColumns t).length < 3 then []
  else
    match (addressColumns t).find? fun c => Text.endsWith (Text.lower c.name) "_id" with
    | some determinant => [dependencyFinding t determinant (others determinant (addressColumns t))]
    | none => [inlineAddress t]

/-! ## Amounts -/

def monetaryColumns (t : Table) : List Column := t.plainColumns.filter fun c => isMonetary c.name

def derivedColumns (t : Table) : List Column :=
  (monetaryColumns t).filter fun c => isDerived c.name

def derivedAmounts (t : Table) : List Finding :=
  if (monetaryColumns t).length < 2 || (derivedColumns t).isEmpty then []
  else
    [{ form := .third
       kind := .calculatedField
       table := t.name
       columnText? := some (String.intercalate ", " (Remedy.names (derivedColumns t)))
       description := "Potential calculated fields detected: these values may be derived " ++
         "from other columns"
       suggestion? := some
         "Consider computing these values in queries or views instead of storing them" }]

/-! ## References that are not declared -/

def referenceFinding? (t : Table) (c : Column) : Option Finding :=
  match Text.beforeEnd? (Text.lower c.name) "_id" with
  | none => none
  | some base =>
    if base = "" || t.inForeignKey c.name then none
    else
      dependencyFinding? t c ((others c t.plainColumns).filter fun d =>
        Text.startsWith (Text.lower d.name) (base ++ "_"))

/-! ## The check -/

def tableFindings (t : Table) : List Finding :=
  entityFindings t ++ t.plainColumns.filterMap (labelFinding? t) ++ addressFindings t ++
    derivedAmounts t ++ t.plainColumns.filterMap (referenceFinding? t)

/-- The findings against the third normal form, table by table, or those of the
lower forms that block it. -/
def findings (s : Schema) : List Finding :=
  match PartialDependency.findings s with
  | [] => s.tables.flatMap tableFindings
  | lower => lower

/-! ## Facts -/

theorem findings_of_partial_ne_nil {s : Schema} (h : PartialDependency.findings s ≠ []) :
    findings s = PartialDependency.findings s := by
  unfold findings
  split
  · contradiction
  · rfl

end NormalForms.TransitiveDependency
