import NormalForms.Sql.Parser.Role
import NormalForms.Sql.Parser.Table

/-!
# Reading views

A view is a query with a name. Before the word for it stands who may use it and
how it is worked out, after it what its columns are called.
-/

namespace NormalForms.Sql.Parser

/-- What may stand between `CREATE` and the word for a view. -/
def viewModifiers : Parser Unit := do
  if ← acceptWord "ALGORITHM" then
    demand "="
    let _ ← demandOneOf ["UNDEFINED", "MERGE", "TEMPTABLE"]
  if ← acceptWord "DEFINER" then
    demand "="
    grantee
  if ← acceptWords ["SQL", "SECURITY"] then
    let _ ← demandOneOf ["DEFINER", "INVOKER"]

/-- A column of a view, with the options that columns of tables have. -/
def viewColumn (parts : Parts) : Parser Unit := do
  let _ ← name
  let _ ← many (columnOption? parts)

def viewColumns (parts : Parts) : Parser Unit := do
  unless ← accept "(" do return
  if ← accept ")" then return
  let _ ← itemsUpTo false [] (viewColumn parts) (← bound)
  demand ")"

def viewOptions (parts : Parts) : Parser Unit := do
  let _ ← properties? parts "WITH"
  if ← acceptWord "CLUSTER" then
    demandWord "BY"
    let _ ← columnList? name
  if ← inDialect [.generic] then
    let _ ← properties? parts "OPTIONS"
    maybe ["TO"] dottedName
  if ← acceptOnlyIn [.generic, .snowflake] ["COMMENT"] then
    demand "="
    remark

def startsView : Parser Bool := do
  if ← isOneOf ["MATERIALIZED", "VIEW"] then return true
  return (← areWords ["SECURE", "MATERIALIZED", "VIEW"]) || (← areWords ["SECURE", "VIEW"])

def createView (parts : Parts) : Parser Unit := do
  let _ ← acceptWord "SECURE"
  let _ ← acceptWord "MATERIALIZED"
  demandWord "VIEW"
  let early ← ifMissing
  let _ ← dottedName
  let _ ← acceptIf (!early) ifMissing
  viewColumns parts
  viewOptions parts
  demandWord "AS"
  let _ ← parts.query
  let _ ← acceptOnlyIn [.generic] ["WITH", "NO", "SCHEMA", "BINDING"]

end NormalForms.Sql.Parser
