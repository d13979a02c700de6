import NormalForms.Sql.Parser.Command
import NormalForms.Sql.Parser.Cursor
import NormalForms.Sql.Parser.Definition
import NormalForms.Sql.Parser.Drop
import NormalForms.Sql.Parser.Inspect
import NormalForms.Sql.Parser.Session

/-!
# Reading statements

The statements that define tables are read in full. The others that are known
are read to their end and leave nothing behind. `Sql.parse` reads all statements
of a text; semicolons separate them.
-/

namespace NormalForms.Sql.Parser

/-- Rows that take the place of others, from the first word on. One dialect reads
that word as what is done with a row that is there. -/
def replace (parts : Parts) : Parser Unit := do
  unless ← inDialect [.sqlite] do
    skip
    unless ← inDialect [.generic, .mySql] do refuseHere "Unsupported statement REPLACE"
  insert parts

def routineStatement? (parts : Parts) (statement : Parser Statement) (keyword : String) :
    Option (Parser Unit) :=
  match keyword with
  | "CASE" => some (caseStatement parts statement)
  | "IF" => some do
    if ← inDialect [.msSql] then plainIf parts statement else ifStatement parts statement
  | "WHILE" => some (whileStatement parts statement)
  | "RAISE" => some (raiseStatement parts)
  | "DECLARE" => some (declarations parts)
  | "FETCH" => some fetch
  | "OPEN" => some (discard name)
  | "CLOSE" => some closeCursor
  | _ => none

def silentStatement? (parts : Parts) (statement : Parser Statement) (keyword : String) :
    Option (Parser Unit) :=
  match keyword with
  | "INSERT" => some (insert parts)
  | "UPDATE" => some (update parts)
  | "DELETE" => some (delete parts)
  | "MERGE" => some (merge parts)
  | "TRUNCATE" => some (truncate parts)
  | "DROP" => some (drop parts)
  | "BEGIN" => some beginTransaction
  | "START" => some do
    demandWord "TRANSACTION"
    transactionModes
  | "COMMIT" => some chain
  | "END" => some endTransaction
  | "ROLLBACK" => some rollback
  | "SAVEPOINT" => some (discard name)
  | "RELEASE" => some do
    let _ ← acceptWord "SAVEPOINT"
    discard name
  | "SET" => some (setVariables parts)
  | "USE" => some use
  | "PRAGMA" => some pragma
  | "EXPLAIN" => some (explain parts statement true)
  | "DESCRIBE" | "DESC" => some (explain parts statement false)
  | "ANALYZE" => some (analyze parts)
  | "SHOW" => some (showContents parts)
  | _ => (routineStatement? parts statement keyword) <|> command? parts statement keyword

/-- Forms of statements that one dialect has in the place of the usual ones. -/
def ownForm? (parts : Parts) (statement : Parser Statement) : Parser (Option Statement) := do
  if ← inDialect [.msSql] then
    if (← acceptFirst [["CREATE", "TRIGGER"], ["CREATE", "OR", "ALTER", "TRIGGER"]]).isSome then
      createTableTrigger statement
      return some .other
  if ← inDialect [.snowflake] then
    if ← acceptWord "BEGIN" then
      block statement
      return some .other
    if ← acceptWords ["ALTER", "DYNAMIC", "TABLE"] then return some (← alterDynamicTable)
    if ← acceptWords ["ALTER", "SESSION"] then
      alterSession
      return some .other
    if let some s := ← createLoose? parts then return some s
    if ← showObjects? parts then return some .other
  return none

def statementWithin : Nat → Parser Statement
  | 0 => throw .tooDeep
  | n + 1 => do
    let parts := parts n
    let statement := statementWithin n
    if let some s := ← ownForm? parts statement then return s
    if ← acceptWord "CREATE" then return ← create parts statement
    if ← acceptWord "ALTER" then return ← alter parts
    if (← isOneOf ["SELECT", "WITH", "VALUES", "FROM"]) || (← isSymbol "(") then
      let _ ← parts.query
    else if ← isWord "REPLACE" then replace parts
    else unless ← acceptOwnCommand (ownCommands parts) do
      match (← peek).bind fun t => t.capitals?.bind (silentStatement? parts statement) with
      | some p =>
        skip
        p
      | none => unexpected "an SQL statement"
    return .other

/-- All statements to the end, at most `n` of them. What follows a statement is
a semicolon, the end, or the word that ends a block. -/
def statementsUpTo : Nat → Parser (List Statement)
  | 0 => return []
  | n + 1 => do
    let _ ← many (after? (accept ";") (return ()))
    if (← peek).isNone then return []
    let s ← statementWithin depthLimit
    if (← peek).isNone || (← isWord "END") then return [s]
    unless ← isSymbol ";" do unexpected "end of statement"
    return s :: (← statementsUpTo n)

def statements : Parser (List Statement) := do statementsUpTo (← bound)

end NormalForms.Sql.Parser

namespace NormalForms.Sql

def parse (d : Dialect) (text : String) : Except SyntaxError (List Statement) :=
  Parser.statements.run d text

end NormalForms.Sql
