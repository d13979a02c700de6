import NormalForms.Sql.Parser.Select

/-!
# Reading changes of rows

The statements that insert, update, merge and delete rows. Nothing of them is
kept.
-/

namespace NormalForms.Sql.Parser

/-! ## Clauses -/

def assignment (parts : Parts) : Parser Unit := do
  if ← isSymbol "(" then discard (parenthesized dottedName) else discard dottedName
  demand "="
  discard parts.whole

def assignments (parts : Parts) : Parser Unit := discard (items (assignment parts))

def whereClause (parts : Parts) : Parser Unit := maybe ["WHERE"] parts.whole

def returningClause (parts : Parts) : Parser Unit := maybe ["RETURNING"] (items (selectItem parts))

/-- What happens to a row that breaks a constraint. -/
def conflictChoice : Parser Unit := discard <| acceptFirst [["OR", "REPLACE"], ["OR", "ROLLBACK"],
  ["OR", "ABORT"], ["OR", "FAIL"], ["OR", "IGNORE"], ["REPLACE"]]

def rowBound (parts : Parts) : Parser Unit := do
  if ← acceptWord "LIMIT" then
    unless ← acceptWord "ALL" do discard parts.whole

/-! ## Insertions -/

/-- Which columns decide that a row is there already. -/
def conflictTarget : Parser Unit := do
  if ← acceptWords ["ON", "CONSTRAINT"] then discard dottedName else discard (columnList? name)

/-- What happens to a row that is there already. -/
def conflictClause (parts : Parts) : Parser Unit := do
  unless ← acceptWord "ON" do return
  if ← acceptWord "CONFLICT" then
    conflictTarget
    demandWord "DO"
    unless ← acceptWord "NOTHING" do
      demandWords ["UPDATE", "SET"]
      assignments parts
      whereClause parts
  else
    demandWords ["DUPLICATE", "KEY", "UPDATE"]
    assignments parts

/-- The rows that a table gets: those of a query, or one told column by column. -/
def newRows (parts : Parts) : Parser Unit := do
  if ← isOneOf ["FORMAT", "SETTINGS"] then return
  if ← acceptOnlyIn [.generic, .mySql] ["SET"] then assignments parts else discard parts.query

def insertion (parts : Parts) : Parser Unit := do
  if ← acceptWords ["DEFAULT", "VALUES"] then return
  unless (← isSymbol "(") && (← peekAt 1).any (Token.isKeyword "SELECT") do
    insertedColumns (← inDialect [.mySql])
    maybe ["PARTITION"] (parenthesized parts.whole)
  newRows parts

def fileFormats : List String :=
  ["AVRO", "JSONFILE", "ORC", "PARQUET", "RCFILE", "SEQUENCEFILE", "TEXTFILE"]

def fileFormat : Parser Unit := discard (orElse (acceptOneOf fileFormats) "fileformat")

def insert (parts : Parts) : Parser Unit := do
  conflictChoice
  if ← inDialect [.generic, .mySql] then
    let _ ← acceptOneOf ["LOW_PRIORITY", "DELAYED", "HIGH_PRIORITY"]
    let _ ← acceptWord "IGNORE"
  let _ ← acceptWord "OVERWRITE"
  let _ ← acceptWord "INTO"
  let _ ← acceptWord "LOCAL"
  if ← acceptWord "DIRECTORY" then
    let _ ← literalText
    maybe ["STORED", "AS"] fileFormat
    discard parts.query
    return
  let _ ← acceptWord "TABLE"
  let _ ← dottedName
  if ← inDialect [.postgreSql] then maybe ["AS"] name
  insertion parts
  if ← acceptOnlyIn [.generic, .mySql] ["AS"] then
    let _ ← dottedName
    let _ ← columnList? name
  conflictClause parts
  returningClause parts

/-! ## Updates and deletions -/

def update (parts : Parts) : Parser Unit := do
  conflictChoice
  let _ ← table parts
  let early ← acceptWord "FROM"
  if early then discard (sources parts)
  demandWord "SET"
  assignments parts
  unless early do maybe ["FROM"] (sources parts)
  whereClause parts
  returningClause parts
  maybe ["LIMIT"] parts.whole

def delete (parts : Parts) : Parser Unit := do
  unless ← acceptWord "FROM" do
    unless ← inDialect [.generic] do
      let _ ← items dottedName
      demandWord "FROM"
  let _ ← tables parts
  maybe ["USING"] (tables parts)
  whereClause parts
  returningClause parts
  maybe ["ORDER", "BY"] (sortKeys parts)
  rowBound parts

def truncate (parts : Parts) : Parser Unit := do
  let _ ← acceptWord "TABLE"
  let _ ← items do
    let _ ← acceptWord "ONLY"
    dottedName
  maybe ["PARTITION"] (parenthesized parts.whole)
  if ← inDialect [.generic, .postgreSql] then
    let _ ← acceptFirst [["RESTART", "IDENTITY"], ["CONTINUE", "IDENTITY"]]
    let _ ← acceptOneOf ["CASCADE", "RESTRICT"]
  maybe ["ON", "CLUSTER"] name

/-! ## Merges -/

/-- Which rows a clause of a merge is about. -/
inductive MergeKind where
  | matched
  | notMatched
  | notMatchedByTarget
  | notMatchedBySource
  deriving DecidableEq, Repr

namespace MergeKind

def text : MergeKind → String
  | matched => "MATCHED"
  | notMatched => "NOT MATCHED"
  | notMatchedByTarget => "NOT MATCHED BY TARGET"
  | notMatchedBySource => "NOT MATCHED BY SOURCE"

/-- Are the rows missing in the table that changes, so that they can only be
inserted? -/
def isMissing (k : MergeKind) : Bool := k = notMatched || k = notMatchedByTarget

end MergeKind

def mergeKind : Parser MergeKind := do
  let missing ← acceptWord "NOT"
  demandWord "MATCHED"
  unless missing do return .matched
  if ← acceptWords ["BY", "SOURCE"] then return .notMatchedBySource
  if ← acceptWords ["BY", "TARGET"] then return .notMatchedByTarget
  return .notMatched

/-- What a merge does to the rows of a clause. -/
def mergeAction (parts : Parts) (kind : MergeKind) : Parser Unit := do
  let allow (word : String) (missing : Bool) : Parser Unit := do
    if kind.isMissing != missing then
      refuse (word ++ " is not allowed in a " ++ kind.text ++ " merge clause") none
  match ← acceptOneOf ["UPDATE", "INSERT", "DELETE"] with
  | some "UPDATE" =>
    allow "UPDATE" false
    demandWord "SET"
    assignments parts
  | some "DELETE" => allow "DELETE" false
  | some _ =>
    allow "INSERT" true
    insertedColumns (← inDialect [.mySql])
    unless ← acceptOnlyIn [.generic] ["ROW"] do
      demandWord "VALUES"
      discard (valueRows parts)
  | none => refuse "expected UPDATE, DELETE or INSERT in merge clause" none

def merge (parts : Parts) : Parser Unit := do
  let _ ← acceptWord "INTO"
  let _ ← single parts
  demandWord "USING"
  let _ ← single parts
  demandWord "ON"
  let _ ← parts.whole
  let _ ← many <| after? (acceptWord "WHEN") do
    let kind ← mergeKind
    maybe ["AND"] parts.whole
    demandWord "THEN"
    mergeAction parts kind
  match ← acceptOneOf ["OUTPUT", "RETURNING"] with
  | none => return
  | some word =>
    let _ ← selectItems parts
    if word = "OUTPUT" then maybe ["INTO"] target

end NormalForms.Sql.Parser
