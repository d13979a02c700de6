import NormalForms.Schema.Column

/-!
# What names and types suggest

The checks cannot see data, so they read the names and types of columns. A
type may say that a column holds several values; a name may say which entity
the column identifies or describes, that it is part of an address, that it is
an amount of money or is derived from other amounts. Letter case never counts,
and what is cut from a name comes back in small letters.
-/

namespace NormalForms.Naming

open Text

def mentionsAny (tokens : List String) (s : String) : Bool := tokens.any fun t => contains s t

/-- The first of `endings` that `s` ends with. -/
def ending? (endings : List String) (s : String) : Option String :=
  endings.find? fun e => endsWith s e

/-- `s` without as many characters at its end as `e` has. -/
def dropEnding (s e : String) : String := String.ofList (s.toList.take (s.length - e.length))

/-! ## Types -/

def multiValuedMarkers : List String := ["SET", "ENUM", "JSON", "ARRAY"]

/-- Does a column of this type hold several values in one row? -/
def isMultiValued (dataType : String) : Bool := mentionsAny multiValuedMarkers (upper dataType)

/-- The type of one element of a column of this type. -/
def elementType (dataType : String) : String :=
  if contains (upper dataType) "VARCHAR" then "VARCHAR(255)"
  else if contains (upper dataType) "INT" then "INT"
  else "TEXT"

/-- Names of text columns that are expected to hold prose. -/
def proseNames : List String := ["content", "description", "bio", "comment", "note", "article"]

/-- Names of binary columns that are expected to hold a file. -/
def fileNames : List String := ["image", "photo", "thumbnail", "file", "attachment"]

/-- Might a column of text or bytes hide values of its own? A name that says
what the content is settles that it does not. -/
def mayHoldStructure (c : Column) : Bool :=
  let type := upper c.dataType
  let name := lower c.name
  if contains type "TEXT" then !mentionsAny proseNames name
  else if contains type "BLOB" then !mentionsAny fileNames name
  else contains type "JSON" || (contains type "VARCHAR" && contains type "MAX")

/-! ## Numbered names -/

/-- `name` without the digits at its end. -/
def withoutNumber (name : String) : String :=
  String.ofList (name.toList.reverse.dropWhile Char.isDigit).reverse

/-- Is `name` the text `base` with a number after it? -/
def isNumbered (name base : String) : Bool :=
  match afterStart? (lower name) (lower base) with
  | some number => number != "" && number.toList.all Char.isDigit
  | none => false

/-! ## Entities -/

/-- Endings of the names of columns that identify an entity. -/
def identifierEndings : List String := ["_id", "_code", "_key", "_no"]

/-- Endings of the names of columns that describe an entity. -/
def attributeEndings : List String :=
  ["_name", "_description", "_address", "_city", "_state", "_zip", "_country", "_date", "_time",
    "_price", "_cost", "_quantity", "_amount", "_total"]

def identifierEnding? (name : String) : Option String := ending? identifierEndings (lower name)

def identifies (name : String) : Bool := (identifierEnding? name).isSome

/-- The entity that a column identifies. -/
def identified? (name : String) : Option String :=
  (identifierEnding? name).map (dropEnding (lower name))

/-- `name` without `_id` at its end. -/
def withoutId (name : String) : String := (beforeEnd? (lower name) "_id").getD (lower name)

/-- What stands before the first underscore, if both are there. -/
def leadingPart? (name : String) : Option String :=
  let lead := name.toList.takeWhile (· != '_')
  if '_' ∈ name.toList ∧ lead ≠ [] then some (String.ofList lead) else none

/-- The entity that a column belongs to: the one it identifies, or the one an
attribute ending is left off from, or else the first part of the name. -/
def entity? (name : String) : Option String :=
  match identified? name with
  | some base => some base
  | none =>
    match ending? attributeEndings (lower name) with
    | some e => some (dropEnding (lower name) e)
    | none => leadingPart? (lower name)

/-! ## Roles -/

def labelEndings : List String := ["_name", "_desc", "_description", "_title"]

/-- Does the column name or title something? -/
def isLabel (name : String) : Bool := labelEndings.any fun e => endsWith (lower name) e

def addressParts : List String := ["city", "state", "zip", "postal_code", "country"]

def isAddress (name : String) : Bool :=
  contains (lower name) "address" || contains (lower name) "street" ||
    addressParts.contains (lower name)

def moneyTokens : List String := ["price", "cost", "amount", "total", "tax", "discount"]

def isMonetary (name : String) : Bool := mentionsAny moneyTokens (lower name)

def derivedTokens : List String := ["total", "subtotal", "net", "gross", "final", "discounted"]

def isDerived (name : String) : Bool := mentionsAny derivedTokens (lower name)

/-! ## Foreign keys -/

/-- Does a column's name point at the table a foreign key refers to? It does if
it mentions the table, or starts with its first three letters, or starts with
what the single column of the key identifies. -/
def pointsAt (fk : ForeignKey) (column : String) : Bool :=
  let name := lower column
  let target := Identifier.key fk.target
  if target = "" then false
  else if contains name target || startsWith name (String.ofList (target.toList.take 3)) then true
  else
    match fk.columns with
    | [c] => startsWith name (withoutId c ++ "_")
    | _ => false

end NormalForms.Naming
