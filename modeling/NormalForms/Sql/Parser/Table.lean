import NormalForms.Sql.Parser.Constraint
import NormalForms.Sql.Parser.Storage

/-!
# Reading definitions of tables

What stands around the items of a table: its name, where it is copied from, the
options of its storage, and the query that fills it. Most dialects have the
options in an order; one has them in any, and the items among them.
-/

namespace NormalForms.Sql.Parser

/-! ## The usual order -/

def rowsOnCommit : Parser Unit := do
  if (← acceptFirst [["DELETE", "ROWS"], ["PRESERVE", "ROWS"], ["DROP"]]).isNone then
    refuse ("Expecting DELETE ROWS, PRESERVE ROWS or DROP" ++ SyntaxError.shown (← peek)) none

def origin : Parser Unit := do
  maybe ["ON", "CLUSTER"] name
  if (← acceptOneOf ["LIKE", "ILIKE"]).isSome then discard dottedName
  maybe ["CLONE"] (lenient dottedName)

def distribution (parts : Parts) : Parser Unit := do
  maybe ["PARTITIONED", "BY"] (parenthesized (columnDefinition parts))

def buckets (parts : Parts) : Parser Unit := do
  if ← acceptOnlyIn [.generic] ["CLUSTERED", "BY"] then
    let _ ← columnList name
    maybe ["SORTED", "BY"] (parenthesized (sortKey parts))
    demandWord "INTO"
    let _ ← unsignedNumber
    demandWord "BUCKETS"

/-- Properties that one dialect has after all others, and whether the word for
them is there. -/
def lateProperties (parts : Parts) : Parser Bool := do
  unless ← inDialect [.generic] do return false
  maybe ["CLUSTER", "BY"] (items parts.whole)
  after? (acceptWord "OPTIONS") (properties parts) <&> Option.isSome

/-- How a table is laid out and stored, after its items. Properties in
parentheses exclude options without. -/
def layout (parts : Parts) : Parser Unit := do
  let _ ← acceptWords ["WITHOUT", "ROWID"]
  distribution parts
  buckets parts
  fileOptions parts
  maybe ["INHERITS"] (columnList dottedName)
  let early ← properties? parts "WITH"
  let middle ← properties? parts "TBLPROPERTIES"
  if ← inDialect [.generic, .postgreSql] then maybe ["PARTITION", "BY"] parts.whole
  let late ← lateProperties parts
  unless early || middle || late do storageOptions

def tableOrder (parts : Parts) : Parser Unit := do
  if ← acceptWords ["ORDER", "BY"] then
    if ← isSymbol "(" then discard (tuple parts) else discard parts.whole

def filling (parts : Parts) : Parser Unit := do
  if ← acceptWord "AS" then discard parts.query
  else if (← inDialect [.mySql]) && (← isWord "SELECT") then discard parts.query

def tableOf (name : DottedName) (items : List (ColumnDefinition ⊕ TableConstraint)) :
    CreateTable where
  name
  columns := items.filterMap Sum.getLeft?
  constraints := items.filterMap Sum.getRight?

def orderedTable (parts : Parts) (n : DottedName) : Parser CreateTable := do
  origin
  let items ← tableItems parts
  layout parts
  if ← inDialect [.generic] then maybe ["PRIMARY", "KEY"] parts.whole
  tableOrder parts
  maybe ["ON", "COMMIT"] rowsOnCommit
  let _ ← acceptWord "STRICT"
  filling parts
  return tableOf n items

/-! ## Any order -/

def assigned {α : Type} (p : Parser α) : Parser Unit := do
  demand "="
  discard p

def truth : Parser Unit := discard (orElse (acceptOneOf ["TRUE", "FALSE"]) "TRUE or FALSE")

def tableComment : Parser Unit := do
  let _ ← accept "="
  remark

/-- An option of a table of which the order does not matter, after its keyword;
nothing if it is none. -/
def looseOption? (parts : Parts) (keyword : String) : Option (Parser Unit) :=
  match keyword with
  | "COPY" => some (demandWord "GRANTS")
  | "COMMENT" => some tableComment
  | "AS" => some (discard parts.query)
  | "CLONE" => some (discard (lenient dottedName))
  | "LIKE" => some (discard dottedName)
  | "CLUSTER" => some do
    demandWord "BY"
    discard (parenthesized parts.whole)
  | "ENABLE_SCHEMA_EVOLUTION" | "CHANGE_TRACKING" => some (assigned truth)
  | "DATA_RETENTION_TIME_IN_DAYS" | "MAX_DATA_EXTENSION_TIME_IN_DAYS" => some (assigned natural)
  | "DEFAULT_DDL_COLLATION" | "EXTERNAL_VOLUME" | "CATALOG" | "BASE_LOCATION" | "CATALOG_SYNC"
  | "TARGET_LAG" => some (assigned literalText)
  | "WAREHOUSE" => some (assigned name)
  | "STORAGE_SERIALIZATION_POLICY" => some <| assigned <|
    orElse (acceptOneOf ["COMPATIBLE", "OPTIMIZED"]) "storage_serialization_policy"
  | "REFRESH_MODE" => some <| assigned <|
    orElse (acceptOneOf ["AUTO", "FULL", "INCREMENTAL"]) "AUTO, FULL or INCREMENTAL"
  | "INITIALIZE" => some <| assigned <|
    orElse (acceptOneOf ["ON_CREATE", "ON_SCHEDULE"]) "ON_CREATE or ON_SCHEDULE"
  | "WITH" => some do
    unless ← isOneOf ["AGGREGATION", "TAG", "ROW"] do
      unexpected "one of AGGREGATION or TAG or ROW"
  | "AGGREGATION" => some do
    demandWord "POLICY"
    discard dottedName
  | "ROW" => some do
    demandWords ["ACCESS", "POLICY"]
    let _ ← dottedName
    demandWord "ON"
    discard (parenthesized name)
  | "TAG" => some (discard (parenthesized tag))
  | _ => none

/-- An option whose first word does not tell it from others, or a failure at that
word. -/
def wordyOption (parts : Parts) : Parser Unit := do
  if ← acceptWords ["ON", "COMMIT"] then rowsOnCommit
  else if ← acceptWords ["REQUIRE", "USER"] then return
  else if ← isOneOf ["AT", "BEFORE"] then discard (tableVersion parts)
  else unless ← acceptWords ["IF", "NOT", "EXISTS"] do unexpected "end of statement"

/-- Items and options of a table in any order, at most `n`; the last items
count. The answer says too whether a place for the files is told. -/
def looseItemsUpTo (parts : Parts) :
    Nat → List (ColumnDefinition ⊕ TableConstraint) → Bool →
    Parser (List (ColumnDefinition ⊕ TableConstraint) × Bool)
  | 0, items, placed => return (items, placed)
  | n + 1, items, placed => do
    match ← peek with
    | none | some (.symbol ";") => return (items, placed)
    | some (.symbol "(") => looseItemsUpTo parts n (← tableItems parts) placed
    | some token =>
      match token.capitals?.bind (looseOption? parts) with
      | some option =>
        skip
        option
      | none => wordyOption parts
      looseItemsUpTo parts n items (placed || token.isKeyword "BASE_LOCATION")

/-- A definition of a table after its name, in any order; tables of one kind need
a place for their files. -/
def looseTable (parts : Parts) (iceberg : Bool) (n : DottedName) : Parser CreateTable := do
  let (items, placed) ← looseItemsUpTo parts (← bound) [] false
  if iceberg && !placed then refuse "BASE_LOCATION is required for ICEBERG tables" none
  return tableOf n items

/-! ## Definitions -/

def ifMissing : Parser Bool := acceptWords ["IF", "NOT", "EXISTS"]

def ifPresent : Parser Bool := acceptWords ["IF", "EXISTS"]

def createTable (parts : Parts) : Parser Statement := do
  let _ ← ifMissing
  return .createTable (← orderedTable parts (← dottedName))

def createExternalTable (parts : Parts) : Parser Statement := do
  demandWord "TABLE"
  let _ ← ifMissing
  let n ← dottedName
  let items ← tableItems parts
  distribution parts
  fileOptions parts
  let _ ← properties? parts "TBLPROPERTIES"
  return .createTable (tableOf n items)

end NormalForms.Sql.Parser
