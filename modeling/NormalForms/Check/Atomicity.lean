import NormalForms.Finding
import NormalForms.Naming
import NormalForms.Remedy
import NormalForms.Schema

/-!
# First normal form

Each table is checked for a primary key, for columns that hold several values
in one row, and for repeating groups: columns of one name with different
numbers after it, such as `phone1` and `phone2`.
-/

namespace NormalForms.Atomicity

open Naming

def missingKey (t : Table) : List Finding :=
  if t.primaryKey?.isSome then []
  else
    [{ form := .first
       kind := .missingPrimaryKey
       table := t.name
       description := "Table does not have a primary key"
       suggestion? := some "Add a primary key column to uniquely identify each row"
       remedy? := some (Remedy.surrogateKey t).render }]

def multiValued (t : Table) (c : Column) : Finding :=
  { form := .first
    kind := .multiValuedColumn
    table := t.name
    columnText? := some c.name
    description := "Column type " ++ c.dataType ++ " stores multiple values in a single field"
    suggestion? := some "Move the values into a separate table with one row per value"
    remedy? := some (Remedy.splitValues t c (elementType c.dataType)).render }

def structuredData (t : Table) (c : Column) : Finding :=
  { form := .first
    kind := .structuredData
    table := t.name
    columnText? := some c.name
    description := "Column type " ++ c.dataType ++ " might contain structured data"
    suggestion? := some
      "If the column holds lists or composite values, split them into separate columns or tables" }

/-- What is to be said of the type of a column. -/
def compositeValue? (t : Table) (c : Column) : Option Finding :=
  if isMultiValued c.dataType then some (multiValued t c)
  else if mayHoldStructure c then some (structuredData t c)
  else none

def compositeValues (t : Table) : List Finding := t.columns.filterMap (compositeValue? t)

/-! ## Repeating groups -/

/-- The name that a column outside the primary key shares with others of its
group: what remains of its own without the number, if that is not too short. -/
def groupBase? (t : Table) (c : Column) : Option String :=
  if Text.byteLength c.name ≤ 2 || t.inPrimaryKey c.name || withoutNumber c.name == c.name ||
      Text.byteLength (withoutNumber c.name) < 3 then none
  else some (Text.lower (withoutNumber c.name))

/-- The bases of the table's groups, each where it is first met. -/
def groupBases (t : Table) : List String := (t.columns.filterMap (groupBase? t)).eraseDups

/-- The columns named `base` with a number, those of the primary key included. -/
def groupMembers (t : Table) (base : String) : List Column :=
  t.columns.filter fun c => isNumbered c.name base

def repeatingGroup (t : Table) (base : String) : Finding :=
  { form := .first
    kind := .repeatingGroup
    table := t.name
    columnText? := some (String.intercalate ", " (Remedy.names (groupMembers t base)))
    description := "Potential repeating group detected: " ++ base ++ " columns"
    suggestion? := some
      ("Move the " ++ base ++ " values into a separate table with one row per value")
    remedy? := some (Remedy.splitGroup t base (groupMembers t base)).render }

/-- A group counts if it has two members and one of them is outside the key. -/
def isGroup (t : Table) (base : String) : Bool :=
  2 ≤ (groupMembers t base).length &&
    (groupMembers t base).any fun c => !t.inPrimaryKey c.name

def repeatingGroups (t : Table) : List Finding :=
  ((groupBases t).filter (isGroup t)).map (repeatingGroup t)

/-! ## The check -/

def tableFindings (t : Table) : List Finding :=
  missingKey t ++ compositeValues t ++ repeatingGroups t

/-- The findings against the first normal form, table by table. -/
def findings (s : Schema) : List Finding := s.tables.flatMap tableFindings

/-- Does a finding against the first form keep the others from being checked? -/
def isBlocked (s : Schema) : Bool := (findings s).any Finding.isBlocking

/-! ## Facts -/

theorem form_of_compositeValue? {t : Table} {c : Column} {f : Finding}
    (h : compositeValue? t c = some f) : f.form = .first := by
  unfold compositeValue? at h
  split at h
  · cases h; rfl
  · split at h
    · cases h; rfl
    · cases h

theorem form_of_mem_tableFindings {t : Table} {f : Finding} (h : f ∈ tableFindings t) :
    f.form = .first := by
  simp only [tableFindings, compositeValues, repeatingGroups, List.mem_append,
    List.mem_filterMap, List.mem_map] at h
  rcases h with (h | ⟨c, _, h⟩) | ⟨b, _, rfl⟩
  · unfold missingKey at h
    split at h
    · cases h
    · cases List.mem_singleton.1 h; rfl
  · exact form_of_compositeValue? h
  · rfl

end NormalForms.Atomicity
