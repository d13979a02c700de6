import NormalForms.Form

/-!
# Findings

A finding says that a table falls short of a normal form, or might. It names
the columns concerned in one text, `", "` between them, from which `columns`
reads the names back; and it may carry a suggestion and a remedy in SQL.

`isBlocking` tells the findings against the first form that keep the higher
forms from being looked at. `deduplicate` keeps the first of the findings that
agree in table, columns and description.
-/

namespace NormalForms

inductive Finding.Kind where
  | missingPrimaryKey
  | multiValuedColumn
  | structuredData
  | repeatingGroup
  | partialDependency
  | transitiveDependency
  | addressDenormalization
  | calculatedField
  deriving DecidableEq, Repr

namespace Finding.Kind

def all : List Kind :=
  [missingPrimaryKey, multiValuedColumn, structuredData, repeatingGroup, partialDependency,
    transitiveDependency, addressDenormalization, calculatedField]

/-- The kind as a machine-readable word. -/
def tag : Kind → String
  | missingPrimaryKey => "missing_primary_key"
  | multiValuedColumn => "multi_valued_column"
  | structuredData => "structured_data"
  | repeatingGroup => "repeating_group"
  | partialDependency => "partial_dependency"
  | transitiveDependency => "transitive_dependency"
  | addressDenormalization => "address_denormalization"
  | calculatedField => "calculated_field"

def title : Kind → String
  | missingPrimaryKey => "Missing primary key"
  | multiValuedColumn => "Multi-valued column"
  | structuredData => "Possible structured data"
  | repeatingGroup => "Repeating group"
  | partialDependency => "Partial dependency"
  | transitiveDependency => "Transitive dependency"
  | addressDenormalization => "Address denormalization"
  | calculatedField => "Calculated field"

/-- The kind a machine-readable word names. -/
def ofTag? (tag : String) : Option Kind := all.find? fun k => k.tag == tag

end Finding.Kind

structure Finding where
  form : Form
  kind : Finding.Kind
  table : String
  columnText? : Option String := none
  description : String
  suggestion? : Option String := none
  remedy? : Option String := none
  deriving DecidableEq, Repr

namespace Finding

/-- The finding about the given columns. -/
def about (f : Finding) (columns : List String) : Finding :=
  { f with columnText? := some (String.intercalate ", " columns) }

/-- The names in a text of names with commas between them; blank ones do not
count. -/
def namesIn (text : String) : List String :=
  ((Text.fields (· == ',') text.toList).map Text.trim |>.filter (!·.isEmpty)).map String.ofList

/-- The columns the finding names. -/
def columns (f : Finding) : List String :=
  match f.columnText? with
  | some text => namesIn text
  | none => []

/-- Is a remedy attached that is not blank? -/
def hasRemedy (f : Finding) : Bool := f.remedy?.any fun r => !Text.isBlankText r

/-! ## Gate -/

/-- One or two columns whose names all mention `id`: two references to other
rows, say, rather than a list of values. -/
def isIdentifierPair (f : Finding) : Bool :=
  let names := f.columns
  !names.isEmpty && names.length ≤ 2 && names.all fun c => Text.contains (Text.lower c) "id"

/-- Does the finding keep the higher forms from being looked at? Advice about
structured data does not, nor does a repeating group that is an identifier
pair. -/
def isBlocking (f : Finding) : Bool :=
  match f.kind with
  | .structuredData => false
  | .repeatingGroup => !f.isIdentifierPair
  | _ => true

/-! ## Repetition -/

/-- What two findings agree in when one repeats the other. -/
def identity (f : Finding) : String × String × String :=
  (f.table, f.columnText?.getD "", f.description)

/-- The findings whose identity is neither in `seen` nor that of an earlier one. -/
def novel (seen : List (String × String × String)) : List Finding → List Finding
  | [] => []
  | f :: fs => if f.identity ∈ seen then novel seen fs else f :: novel (f.identity :: seen) fs

/-- The first finding of each identity, in order. -/
def deduplicate (fs : List Finding) : List Finding := novel [] fs

/-! ## Facts -/

theorem novel_sublist (seen : List (String × String × String)) (fs : List Finding) :
    (novel seen fs).Sublist fs := by
  induction fs generalizing seen with
  | nil => exact .slnil
  | cons f fs ih =>
    unfold novel
    split
    · exact (ih _).cons _
    · exact (ih _).cons_cons _

end Finding

end NormalForms
