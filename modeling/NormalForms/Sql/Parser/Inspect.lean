import NormalForms.Sql.Parser.Query
import NormalForms.Sql.Statement

/-!
# Reading questions about a database

`EXPLAIN` asks how a statement would run, `SHOW` what there is; `ANALYZE` gathers
what is known about a table.
-/

namespace NormalForms.Sql.Parser

/-! ## Plans -/

def planOption (parts : Parts) : Parser Unit := do
  let _ ← name
  unless (← isSymbol ",") || (← isSymbol ")") do discard parts.whole

def planFormat : Parser Unit := do
  let _ ← accept "="
  discard (orElse (acceptOneOf ["TEXT", "GRAPHVIZ", "JSON", "TRADITIONAL", "TREE"]) "fileformat")

/-- What is told of a plan; `options` says whether that may stand in parentheses. -/
def planDetails (parts : Parts) (options : Bool) : Parser Unit := do
  if options && (← inDialect [.generic, .postgreSql, .duckDb]) && (← isSymbol "(") then
    discard (parenthesized (planOption parts))
  else if (← acceptFirst [["QUERY", "PLAN"], ["ESTIMATE"]]).isSome then return
  else
    let _ ← acceptWord "ANALYZE"
    let _ ← acceptWord "VERBOSE"
    if ← acceptWord "FORMAT" then planFormat

def planWords : List String := ["EXPLAIN", "DESCRIBE", "DESC"]

/-- How a statement would run, or what the columns of a table are, after the first
word. What is no statement is a table. -/
def explain (parts : Parts) (statement : Parser Statement) (options : Bool) : Parser Unit := do
  planDetails parts options
  let nested ← isOneOf planWords
  match ← attempt statement with
  | some _ => if nested then refuse "Explain must be root of the plan" none
  | none =>
    let _ ← acceptOneOf ["EXTENDED", "FORMATTED"]
    let _ ← acceptOnlyIn [.snowflake] ["TABLE"]
    discard dottedName

def analyze (parts : Parts) : Parser Unit := do
  let _ ← acceptWord "TABLE"
  let _ ← dottedName
  let _ ← many do
    match ← acceptOneOf ["PARTITION", "FOR", "CACHE", "NOSCAN", "COMPUTE"] with
    | none => return none
    | some "PARTITION" => discard (parenthesized parts.whole)
    | some "FOR" =>
      demandWord "COLUMNS"
      discard (attempt (items name))
    | some "CACHE" => demandWord "METADATA"
    | some "COMPUTE" => demandWord "STATISTICS"
    | some _ => pure ()
    return some ()

/-! ## Contents -/

/-- Which objects are shown, and whether that is said. -/
def shownFilter? (parts : Parts) : Parser Bool := do
  if (← acceptOneOf ["LIKE", "ILIKE"]).isSome then
    let _ ← literalText
    return true
  if ← acceptWord "WHERE" then
    let _ ← parts.whole
    return true
  return (← attempt literalText).isSome

def shownPlace : Parser Unit := do
  if (← acceptOneOf ["FROM", "IN"]).isNone then return
  match ← acceptOneOf ["ACCOUNT", "DATABASE", "SCHEMA", "TABLE", "VIEW"] with
  | some kind =>
    let ends := (← areWords ["STARTS", "WITH"]) || (← isWord "LIMIT")
    unless ends && (kind = "DATABASE" ∨ kind = "SCHEMA") do discard (attempt dottedName)
  | none =>
    let _ ← dottedName
    if (← acceptOneOf ["FROM", "IN"]).isSome then discard name

def shownObjects (parts : Parts) : Parser Unit := do
  if ← inDialect [.snowflake] then
    let _ ← shownFilter? parts
    shownPlace
  else
    shownPlace
    let _ ← shownFilter? parts
  maybe ["STARTS", "WITH"] value
  maybe ["LIMIT"] (rowCount parts)
  maybe ["FROM"] value
where
  /-- A number of rows, or the word for all of them. -/
  rowCount (parts : Parts) : Parser Unit := do
    unless ← acceptWord "ALL" do discard parts.whole

def shownDefinition : Parser Unit := do
  let _ ← demandOneOf ["TABLE", "TRIGGER", "FUNCTION", "PROCEDURE", "EVENT", "VIEW"]
  discard dottedName

/-- A variable, of which everything up to an equals sign is the name. -/
def shownVariable : Parser Unit := do
  let _ ← many do
    match ← peek with
    | none | some (.symbol "=") | some (.symbol ";") => return none
    | some _ => skip; return some ()

def showContents (parts : Parts) : Parser Unit := do
  let _ ← acceptWord "TERSE"
  let extended ← acceptWord "EXTENDED"
  let full ← acceptWord "FULL"
  let _ ← acceptWord "SESSION"
  let _ ← acceptWord "GLOBAL"
  let _ ← acceptWord "EXTERNAL"
  if (← acceptFirst [["COLUMNS"], ["FIELDS"], ["TABLES"], ["MATERIALIZED", "VIEWS"],
      ["VIEWS"]]).isSome then
    shownObjects parts
  else if ← acceptWord "FUNCTIONS" then discard (shownFilter? parts)
  else if extended || full then
    refuse "EXTENDED/FULL are not supported with this type of SHOW query" none
  else if ← acceptWord "CREATE" then shownDefinition
  else if ← acceptWord "COLLATION" then discard (shownFilter? parts)
  else if ← acceptIn [.generic, .mySql] ["VARIABLES"] then discard (shownFilter? parts)
  else if ← acceptIn [.generic, .mySql] ["STATUS"] then discard (shownFilter? parts)
  else if ← acceptWord "DATABASES" then
    let _ ← acceptWord "HISTORY"
    shownObjects parts
  else if ← acceptWord "SCHEMAS" then
    let _ ← acceptWord "HISTORY"
    shownObjects parts
  else if (← acceptFirst [["CHARACTER", "SET"], ["CHARSET"]]).isSome then
    discard (shownFilter? parts)
  else shownVariable

def showObjects? (parts : Parts) : Parser Bool := do
  if (← acceptFirst [["SHOW", "OBJECTS"], ["SHOW", "TERSE", "OBJECTS"]]).isSome then
    shownObjects parts
    return true
  return false

end NormalForms.Sql.Parser
