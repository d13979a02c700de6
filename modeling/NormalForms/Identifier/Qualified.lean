import NormalForms.Identifier

/-!
# Qualified names and key columns

A table may be named within a schema, `sales.orders`. `parts` cuts such a name
at the dots that stand outside quotes, and `relation` is its last part. A key
lists columns as rendered expressions, with an order after the name perhaps;
`keyColumn` keeps the name alone.
-/

namespace NormalForms.Identifier

open Text

/-- Cuts at the dots outside quotes; `close` ends the quotes the scan is in. -/
def dottedParts (close : Option Char) : List Char → List (List Char)
  | [] => [[]]
  | c :: cs =>
    match close with
    | none => if c = '.' then [] :: dottedParts none cs else extend c (dottedParts (closer? c) cs)
    | some q => extend c (dottedParts (if c = q then none else close) cs)

/-- The parts of a dotted name, without the blanks and quotes around each. -/
def parts (s : String) : List String :=
  (dottedParts none s.toList).map fun p => String.ofList (bare (trim p))

/-- The last two parts of a name that has at least two. -/
def schemaAndRelation? (s : String) : Option (String × String) :=
  match (parts s).reverse with
  | relation :: schema :: _ => some (schema, relation)
  | _ => none

/-- The relation that a name means, whatever schema it is qualified by. -/
def relation (s : String) : String :=
  match schemaAndRelation? (trimmed s) with
  | some (_, name) => name
  | none => unquote (trimmed s)

/-- The characters of `keyColumn`, from a text without blanks at its ends. -/
def leadingName : List Char → List Char
  | [] => []
  | c :: cs =>
    match closer? c with
    | some close => if close ∈ cs then cs.takeWhile (· != close) else c :: cs
    | none => firstWord (c :: cs)

/-- The column of a rendered key column: the text up to the quote that closes
it, or the first word when no quote opens it. -/
def keyColumn (rendered : String) : String := String.ofList (leadingName (trim rendered.toList))

end NormalForms.Identifier
