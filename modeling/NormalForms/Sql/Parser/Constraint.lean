import NormalForms.Sql.Parser.Column

/-!
# Reading table constraints

The constraints that stand beside the columns of a table, and the indexes that
some dialects declare there.
-/

namespace NormalForms.Sql.Parser

/-! ## Keys -/

/-- The word after a key column, unless it says something else. -/
def operatorClass? : Parser (Option Name) := do
  if ← isOneOf ["ASC", "DESC", "NULLS", "WITH"] then return none
  name?

def keyColumn (parts : Parts) : Parser KeyColumn := do
  let expr ← parts.whole
  let operatorClass ← operatorClass?
  return { expr, operatorClass, order := Expr.renderPieces (← sortOrder parts) }

def indexMethod : Parser Unit := do
  if ← acceptWord "USING" then
    let _ ← name

def indexOptions : Parser Unit := do
  let _ ← many do
    if ← isWord "USING" then
      indexMethod
      return some ()
    after? (acceptWord "COMMENT") (discard literalText)

def keyColumns (parts : Parts) : Parser (List KeyColumn) := do
  indexMethod
  let columns ← columnList (keyColumn parts)
  indexOptions
  return columns

/-! ## Constraints -/

def hasInlineIndexes : Parser Bool := inDialect [.generic, .mySql]

def uniqueKey (parts : Parts) (constraint : Option Name) : Parser TableConstraint := do
  let kind ← acceptOneOf ["KEY", "INDEX"]
  if kind.isSome && !(← hasInlineIndexes) then
    unexpected "\x60index_name\x60 or \x60(column_name [, ...])\x60"
  if ← acceptWord "NULLS" then
    let _ ← acceptWord "NOT"
    demandWord "DISTINCT"
  let _ ← name?
  let columns ← keyColumns parts
  enforcement
  return .unique constraint columns

def primaryKey (parts : Parts) (constraint : Option Name) : Parser TableConstraint := do
  demandWord "KEY"
  let _ ← name?
  let columns ← keyColumns parts
  enforcement
  return .primaryKey constraint columns

def foreignKey (constraint : Option Name) : Parser TableConstraint := do
  demandWord "KEY"
  let _ ← name?
  let columns ← columnList name
  demandWord "REFERENCES"
  let (target, targetColumns) ← reference
  return .foreignKey constraint columns target targetColumns

def checkOf (parts : Parts) (constraint : Option Name) : Parser TableConstraint := do
  let e ← inParens parts.whole
  unless ← acceptWords ["NOT", "ENFORCED"] do
    let _ ← acceptWord "ENFORCED"
  return .check constraint e

def inlineIndex (parts : Parts) : Parser TableConstraint := do
  unless ← isWord "USING" do
    let _ ← name?
  let _ ← keyColumns parts
  return .index

/-- An index for words or places, after the first word for it. -/
def specialIndex (parts : Parts) : Parser TableConstraint := do
  let _ ← acceptOneOf ["KEY", "INDEX"]
  let _ ← name?
  let _ ← columnList (keyColumn parts)
  return .index

/-- Fails where a constraint that may have no name has one. -/
def refuseName {α : Type} (constraint : Name) : Parser α := do
  let found := (← position?).map fun p => ⟨.symbol constraint.render, p⟩
  throw (.unexpected "FULLTEXT or SPATIAL option without constraint name" found)

/-- A constraint after its name, if one is next. -/
def constraintBody? (parts : Parts) (constraint : Option Name) :
    Parser (Option TableConstraint) := do
  if ← acceptWord "PRIMARY" then return some (← primaryKey parts constraint)
  if ← acceptWord "UNIQUE" then return some (← uniqueKey parts constraint)
  if ← acceptWord "FOREIGN" then return some (← foreignKey constraint)
  if ← acceptWord "CHECK" then return some (← checkOf parts constraint)
  unless ← hasInlineIndexes do return none
  if ← isOneOf ["FULLTEXT", "SPATIAL"] then
    if let some n := constraint then refuseName n
    skip
    return some (← specialIndex parts)
  if constraint.isNone && (← isOneOf ["INDEX", "KEY"]) then
    skip
    return some (← inlineIndex parts)
  return none

def tableConstraint? (parts : Parts) : Parser (Option TableConstraint) := do
  if ← acceptWord "CONSTRAINT" then
    let n ← name
    return some (← orElse (constraintBody? parts n) "PRIMARY, UNIQUE, FOREIGN, or CHECK")
  constraintBody? parts none

/-! ## Items of tables -/

def tableItem (parts : Parts) : Parser (ColumnDefinition ⊕ TableConstraint) := do
  match ← tableConstraint? parts with
  | some c => return .inr c
  | none =>
    match ← peek with
    | some (.word _ _) => return .inl (← columnDefinition parts)
    | _ => unexpected "column name or constraint definition"

/-- Items up to the closing parenthesis, at most `n`. -/
def tableItemsUpTo (parts : Parts) : Nat → Parser (List (ColumnDefinition ⊕ TableConstraint))
  | 0 => return []
  | n + 1 => do
    let item ← tableItem parts
    let comma ← accept ","
    let closes ← isSymbol ")"
    if !comma && !closes then unexpected "',' or ')' after column definition"
    if closes && (!comma || (← inDialect [.duckDb])) then
      skip
      return [item]
    return item :: (← tableItemsUpTo parts n)

def tableItems (parts : Parts) : Parser (List (ColumnDefinition ⊕ TableConstraint)) := do
  unless ← accept "(" do return []
  if ← accept ")" then return []
  tableItemsUpTo parts (← bound)

end NormalForms.Sql.Parser
