import NormalForms.Check.Atomicity

/-!
# Second normal form

A column outside a composite key may depend on a part of the key only. The
check takes names for it: of a table with a composite key it looks at the
foreign keys that take part in the key, at the key columns that identify an
entity, and at each other column; of any other table at its foreign keys. It is
made only where no finding against the first form is blocking; otherwise those
findings are returned as they are.
-/

namespace NormalForms.PartialDependency

open Naming

/-- The columns that seem to belong to the table a foreign key refers to. -/
def foreignKeyDependents (t : Table) (fk : ForeignKey) : List Column :=
  t.plainColumns.filter fun c => !t.inForeignKey c.name && pointsAt fk c.name

def foreignKeyFinding (t : Table) (scope : String) (fk : ForeignKey) : Finding :=
  { form := .second
    kind := .partialDependency
    table := t.name
    columnText? := some (String.intercalate ", " (Remedy.names (foreignKeyDependents t fk)))
    description := "Potential partial dependency detected: these columns may depend on " ++
      String.intercalate ", " fk.columns ++ " " ++ scope
    suggestion? := some ("Consider moving these columns to a separate table keyed by " ++
      String.intercalate ", " fk.columns)
    remedy? := some (Remedy.splitByForeignKey t fk (foreignKeyDependents t fk)).render }

/-- The finding about the dependents of a foreign key, if it has any. -/
def foreignKeyFinding? (t : Table) (scope : String) (fk : ForeignKey) : Option Finding :=
  if (foreignKeyDependents t fk).isEmpty then none else some (foreignKeyFinding t scope fk)

def keyColumnFinding (t : Table) (key : Column) (dependents : List Column)
    (subject base : String) : Finding :=
  { form := .second
    kind := .partialDependency
    table := t.name
    columnText? := some (String.intercalate ", " (Remedy.names dependents))
    description := "Potential partial dependency detected: " ++ subject ++ " " ++ key.name ++
      " (part of the primary key) rather than the full primary key"
    suggestion? := some ("Consider moving " ++
      (if dependents.length = 1 then "this column" else "these columns") ++
      " to a separate table keyed by " ++ key.name)
    remedy? := some (Remedy.splitByColumn t key dependents (t.name ++ "_" ++ base)
      "Move the partially dependent columns into their own table").render }

/-! ## Composite keys -/

/-- Foreign keys that share a column with the primary key. -/
def keyForeignKeys (t : Table) : List ForeignKey :=
  t.foreignKeys.filter fun fk => fk.columns.any t.inPrimaryKey

/-- The columns outside the key whose names mention an entity. -/
def mentioning (t : Table) (entity : String) : List Column :=
  t.plainColumns.filter fun c => Text.contains (Text.lower c.name) (entity ++ "_")

/-- The finding about the columns that mention what a key column identifies. -/
def keyColumnFinding? (t : Table) (key : Column) : Option Finding :=
  match Text.beforeEnd? (Text.lower key.name) "_id" with
  | none => none
  | some base =>
    if Text.byteLength base < 2 || (mentioning t base).isEmpty then none
    else some (keyColumnFinding t key (mentioning t base) "these columns may depend on" base)

/-- Does a name start with what a key column identifies, or hold it between two
underscores? -/
def belongsTo (key : Column) (name : String) : Bool :=
  let base := withoutId key.name
  3 ≤ Text.byteLength base &&
    (Text.startsWith (Text.lower name) (base ++ "_") ||
      Text.contains (Text.lower name) ("_" ++ base ++ "_"))

/-- The finding that a column belongs to a key column, the first that fits. -/
def memberFinding? (t : Table) (c : Column) : Option Finding :=
  (t.keyColumns.find? fun key => belongsTo key c.name).map fun key =>
    keyColumnFinding t key [c] "this column may depend on" (withoutId key.name)

def compositeFindings (t : Table) : List Finding :=
  (keyForeignKeys t).filterMap
      (foreignKeyFinding? t "(part of the primary key) rather than the full primary key") ++
    t.keyColumns.filterMap (keyColumnFinding? t) ++
    t.plainColumns.filterMap (memberFinding? t)

/-! ## The check -/

def isComposite (t : Table) : Bool := 1 < t.keyColumns.length

def tableFindings (t : Table) : List Finding :=
  if isComposite t then compositeFindings t
  else t.foreignKeys.filterMap (foreignKeyFinding? t "rather than the primary key")

/-- The findings against the second normal form, table by table, or those that
block it. -/
def findings (s : Schema) : List Finding :=
  if Atomicity.isBlocked s then Atomicity.findings s else s.tables.flatMap tableFindings

/-! ## Facts -/

theorem form_of_mem_tableFindings {t : Table} {f : Finding} (h : f ∈ tableFindings t) :
    f.form = .second := by
  have hfk : ∀ {scope : String} {fk : ForeignKey},
      foreignKeyFinding? t scope fk = some f → f.form = .second := by
    intro scope fk h
    unfold foreignKeyFinding? at h
    split at h
    · cases h
    · cases h; rfl
  unfold tableFindings at h
  split at h
  · simp only [compositeFindings, List.mem_append, List.mem_filterMap] at h
    rcases h with (⟨fk, _, h⟩ | ⟨c, _, h⟩) | ⟨c, _, h⟩
    · exact hfk h
    · unfold keyColumnFinding? at h
      split at h
      · cases h
      · split at h
        · cases h
        · cases h; rfl
    · obtain ⟨key, _, rfl⟩ := Option.map_eq_some_iff.1 h
      rfl
  · obtain ⟨fk, _, h⟩ := List.mem_filterMap.1 h
    exact hfk h

end NormalForms.PartialDependency
