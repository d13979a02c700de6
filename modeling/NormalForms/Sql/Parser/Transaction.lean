import NormalForms.Sql.Parser.Value

/-!
# Reading transactions

How a transaction starts, is kept apart from others, and ends.
-/

namespace NormalForms.Sql.Parser

/-! ## Modes -/

def isolationLevel : Parser Unit := do
  if (← acceptFirst [["READ", "UNCOMMITTED"], ["READ", "COMMITTED"], ["REPEATABLE", "READ"],
      ["SERIALIZABLE"], ["SNAPSHOT"]]).isNone then
    unexpected "isolation level"

def transactionMode? : Parser Bool := do
  if ← acceptWords ["ISOLATION", "LEVEL"] then
    isolationLevel
    return true
  return (← acceptFirst [["READ", "ONLY"], ["READ", "WRITE"]]).isSome

def transactionModes : Parser Unit := do
  let commas ← many (after? transactionMode? (accept ","))
  if commas.getLast? = some true then unexpected "transaction mode"

/-! ## Statements -/

def transactionWord : Parser Unit := discard (acceptOneOf ["TRANSACTION", "WORK"])

def beginTransaction : Parser Unit := do
  if ← inDialect [.generic, .msSql, .sqlite] then
    let _ ← acceptOneOf ["DEFERRED", "IMMEDIATE", "EXCLUSIVE", "TRY", "CATCH"]
  transactionWord
  transactionModes

/-- The end of a transaction, and whether another one follows it. -/
def chain : Parser Unit := do
  transactionWord
  if ← acceptWord "AND" then
    let _ ← acceptWord "NO"
    demandWord "CHAIN"

/-- The end of a transaction or a part of it, after the first word. -/
def endTransaction : Parser Unit := do
  if ← inDialect [.msSql] then discard (acceptOneOf ["TRY", "CATCH"])
  chain

def rollback : Parser Unit := do
  chain
  if ← acceptWord "TO" then
    let _ ← acceptWord "SAVEPOINT"
    discard name

end NormalForms.Sql.Parser
