import NormalForms.Sql.Parser.Copy
import NormalForms.Sql.Parser.Privilege
import NormalForms.Sql.Parser.Routine

/-!
# Reading commands

Statements that tell a database what to do, of which nothing is kept: those that
run other statements, look after tables, and attach files or listeners.
-/

namespace NormalForms.Sql.Parser

/-! ## Routines and prepared statements -/

def callProcedure (parts : Parts) : Parser Unit := do
  let n ← dottedName
  if ← isSymbol "(" then discard (callOf parts n)

/-- Does a list of arguments without parentheses end here, before it has begun? -/
def lacksArguments : Parser Bool := do
  if (← peek).isNone then return true
  isOneOf ["USING", "OUTPUT", "DEFAULT"]

def aliased (parts : Parts) : Parser Unit := discard (namedExpr parts)

def execute (parts : Parts) : Parser Unit := do
  unless ← acceptOnlyIn [.snowflake] ["IMMEDIATE"] do discard dottedName
  if ← accept "(" then
    let _ ← itemsBefore ")" parts.whole
    demand ")"
  else unless ← lacksArguments do
    discard (itemsBefore ";" parts.whole)
  maybe ["INTO"] (items name)
  maybe ["USING"] (items (aliased parts))
  let _ ← acceptWord "OUTPUT"
  discard (acceptWord "DEFAULT")

def prepare (statement : Parser Statement) : Parser Unit := do
  let _ ← name
  if ← isSymbol "(" then discard (parenthesized dataType)
  demandWord "AS"
  discard statement

def deallocate : Parser Unit := do
  let _ ← acceptWord "PREPARE"
  discard name

def assertion (parts : Parts) : Parser Unit := do
  let _ ← parts.whole
  maybe ["AS"] parts.whole

def raiseError (parts : Parts) : Parser Unit := do
  inParens do
    let _ ← parts.whole
    demand ","
    let _ ← parts.whole
    demand ","
    let _ ← parts.whole
    if ← accept "," then discard (items parts.whole)
  maybe ["WITH"] (items (demandOneOf ["LOG", "NOWAIT", "SETERROR"]))

/-! ## Connections and caches -/

def kill : Parser Unit := do
  let kind ← acceptOneOf ["CONNECTION", "QUERY", "MUTATION"]
  let _ ← natural
  if kind == some "MUTATION" then
    unless ← inDialect [.generic] do
      unexpected "Unsupported type for KILL, allowed: CONNECTION | QUERY"

/-- The things other than tables that can be written out, each with its words. -/
def flushable : List (List String) := [
  ["BINARY", "LOGS"], ["ENGINE", "LOGS"], ["ERROR", "LOGS"], ["GENERAL", "LOGS"], ["HOSTS"],
  ["PRIVILEGES"], ["OPTIMIZER_COSTS"], ["RELAY", "LOGS"], ["SLOW", "LOGS"], ["STATUS"],
  ["USER_RESOURCES"], ["LOGS"], ["TABLES"]]

/-- The tables that are written out, up to what is no word. Keywords among them
say how. -/
def flushedTables : Parser Unit := do
  let _ ← many do
    match ← peek with
    | some (.word text quote) =>
      if quote.isNone && Keyword.isKnown (Keyword.ofText text) then
        skip
        if Keyword.ofText text = "WITH" then discard (acceptWords ["READ", "LOCK"])
        else if Keyword.ofText text = "FOR" then discard (acceptWord "EXPORT")
      else discard (items dottedName)
      return some ()
    | _ => skip; return none

def flush : Parser Unit := do
  unless ← inDialect [.generic, .mySql] do refuseHere "Unsupported statement FLUSH"
  let _ ← acceptOneOf ["NO_WRITE_TO_BINLOG", "LOCAL"]
  match ← acceptFirst flushable with
  | some ["TABLES"] => flushedTables
  | some ["RELAY", "LOGS"] => maybe ["FOR", "CHANNEL"] dottedName
  | some _ => return
  | none =>
    unexpected <| "BINARY LOGS, ENGINE LOGS, ERROR LOGS, GENERAL LOGS, HOSTS, LOGS, PRIVILEGES, " ++
      "OPTIMIZER_COSTS,RELAY LOGS [FOR CHANNEL channel], SLOW LOGS, STATUS, USER_RESOURCES"

/-- The query that fills a cache, with the word before it perhaps. -/
def cacheQuery (parts : Parts) : Parser Unit := do
  match ← peek with
  | some (.word _ _) =>
    let _ ← acceptWord "AS"
    discard parts.query
  | _ => unexpected "a QUERY statement"

def cache (parts : Parts) : Parser Unit := do
  unless ← acceptWord "TABLE" do
    let start ← get
    let _ ← dottedName
    unless ← acceptWord "TABLE" do
      if (← peek).isNone then backSince start
      unexpected "a \x60TABLE\x60 keyword"
  let _ ← dottedName
  let _ ← properties? parts "OPTIONS"
  unless (← peek).isNone do cacheQuery parts

def uncache : Parser Unit := do
  demandWord "TABLE"
  let _ ← acceptWords ["IF", "EXISTS"]
  discard dottedName

/-- What a session has kept and now forgets, after the first word. -/
def discardKept : Parser Unit :=
  discard (orElse (acceptOneOf ["ALL", "PLANS", "SEQUENCES", "TEMP", "TEMPORARY"])
    "ALL, PLANS, SEQUENCES, TEMP or TEMPORARY after DISCARD")

/-! ## Files and extensions -/

/-- The options of an attached file after the opening parenthesis, at most `n`. -/
def attachOptionsUpTo : Nat → Parser Unit
  | 0 => return
  | n + 1 => do
    if ← acceptWord "READ_ONLY" then discard (acceptOneOf ["TRUE", "FALSE"])
    else if ← acceptWord "TYPE" then discard name
    else unexpected "expected one of: ), READ_ONLY, TYPE"
    if ← accept ")" then return
    unless ← accept "," do unexpected "expected one of: ')', ','"
    attachOptionsUpTo n

def attach (parts : Parts) : Parser Unit := do
  let _ ← acceptWord "DATABASE"
  if ← inDialect [.duckDb] then
    let _ ← acceptWords ["IF", "NOT", "EXISTS"]
    let _ ← name
    maybe ["AS"] name
    if ← accept "(" then attachOptionsUpTo (← bound)
  else
    let _ ← parts.whole
    demandWord "AS"
    discard name

def detach : Parser Unit := do
  let _ ← acceptWord "DATABASE"
  let _ ← acceptWords ["IF", "EXISTS"]
  discard name

def loadExtension : Parser Unit := do
  if ← inDialect [.generic, .duckDb] then discard name
  else
    let _ ← acceptWord "DATA"
    unexpected "\x60DATA\x60 or an extension name after \x60LOAD\x60"

def exportData (parts : Parts) : Parser Unit := do
  demandWord "DATA"
  maybe ["WITH", "CONNECTION"] dottedName
  demandWord "OPTIONS"
  let _ ← parenthesized (property parts)
  demandWord "AS"
  discard parts.query

/-! ## Care of tables -/

def checkPartitions : Parser Unit := do
  let _ ← acceptWord "REPAIR"
  demandWord "TABLE"
  let _ ← dottedName
  discard <| attempt do
    let _ ← acceptOneOf ["ADD", "DROP", "SYNC"]
    demandWord "PARTITIONS"

def renameTables : Parser Unit := do
  unless ← acceptWord "TABLE" do unexpected "KEYWORD \x60TABLE\x60 after RENAME"
  discard <| items do
    let _ ← dottedName
    demandWord "TO"
    dottedName

def optimize (parts : Parts) : Parser Unit := do
  demandWord "TABLE"
  let _ ← dottedName
  maybe ["ON", "CLUSTER"] name
  if ← acceptWord "PARTITION" then
    if ← acceptWord "ID" then discard name else discard parts.whole
  let _ ← acceptWord "FINAL"
  if ← acceptWord "DEDUPLICATE" then maybe ["BY"] parts.whole

def vacuum : Parser Unit := do
  let _ ← acceptWord "FULL"
  let _ ← acceptWords ["SORT", "ONLY"]
  let _ ← acceptWords ["DELETE", "ONLY"]
  let _ ← acceptWord "REINDEX"
  let _ ← acceptWord "RECLUSTER"
  if (← attempt dottedName).isSome then
    if ← acceptWord "TO" then
      let _ ← value
      demandWord "PERCENT"
    discard (acceptWord "BOOST")

def lockTables : Parser Unit := do
  discard <| items do
    let _ ← name
    unless ← isOneOf ["READ", "WRITE", "LOW_PRIORITY"] do
      if (← acceptWord "AS") || (← peek).any isAliasToken then discard name
    if ← acceptWord "READ" then discard (acceptWord "LOCAL")
    else if (← acceptFirst [["WRITE"], ["LOW_PRIORITY", "WRITE"]]).isNone then
      unexpected "an lock type in LOCK TABLES"
where
  /-- May a token be another name, unless it is a word that is not? -/
  isAliasToken : Token → Bool
    | .word _ _ | .string .single _ => true
    | _ => false

/-! ## Remarks and listeners -/

def commentOn : Parser Unit := do
  let _ ← acceptWords ["IF", "EXISTS"]
  demandWord "ON"
  let _ ← orElse (acceptOneOf ["COLUMN", "TABLE", "EXTENSION", "SCHEMA", "DATABASE", "USER", "ROLE"])
    "comment object_type"
  let _ ← dottedName
  demandWord "IS"
  unless ← acceptWord "NULL" do discard literalText

def unlisten : Parser Unit := do
  unless ← accept "*" do discard (orElse name? "wildcard or identifier")

def notify : Parser Unit := do
  let _ ← name
  if ← accept "," then discard literalText

/-! ## By words -/

/-- A command, after its word; nothing if there is none. -/
def command? (parts : Parts) (statement : Parser Statement) (keyword : String) :
    Option (Parser Unit) :=
  match keyword with
  | "CALL" => some (callProcedure parts)
  | "EXECUTE" | "EXEC" => some (execute parts)
  | "PREPARE" => some (prepare statement)
  | "DEALLOCATE" => some deallocate
  | "ASSERT" => some (assertion parts)
  | "RAISERROR" => some (raiseError parts)
  | "PRINT" => some (discard parts.whole)
  | "RETURN" => some (discard (attempt parts.whole))
  | "KILL" => some kill
  | "FLUSH" => some flush
  | "CACHE" => some (cache parts)
  | "UNCACHE" => some uncache
  | "DISCARD" => some discardKept
  | "ATTACH" => some (attach parts)
  | "LOAD" => some loadExtension
  | "EXPORT" => some (exportData parts)
  | "MSCK" => some checkPartitions
  | "RENAME" => some renameTables
  | "VACUUM" => some vacuum
  | "COPY" => some (copy parts)
  | "UNLOAD" => some (unload parts)
  | "GRANT" => some grant
  | "DENY" => some deny
  | "REVOKE" => some revoke
  | _ => none

/-- The words of the commands that some dialects only have, each with those
dialects and the command. -/
def ownCommands (parts : Parts) : List (List String × List Dialect × Parser Unit) := [
  (["LOCK", "TABLES"], [.mySql], lockTables), (["UNLOCK", "TABLES"], [.mySql], return ()),
  (["DETACH"], [.generic, .duckDb], detach), (["INSTALL"], [.generic, .duckDb], discard name),
  (["OPTIMIZE"], [.generic], optimize parts),
  (["COMMENT"], [.generic, .postgreSql, .snowflake], commentOn),
  (["LISTEN"], [.postgreSql], discard name), (["UNLISTEN"], [.postgreSql], unlisten),
  (["NOTIFY"], [.postgreSql], notify), (["COPY", "INTO"], [.snowflake], copyInto parts),
  (["LIST"], [.snowflake], placeFiles), (["LS"], [.snowflake], placeFiles),
  (["REMOVE"], [.snowflake], placeFiles), (["RM"], [.snowflake], placeFiles)]

/-- The command of its own that is next in the dialect, if there is one. -/
def acceptOwnCommand : List (List String × List Dialect × Parser Unit) → Parser Bool
  | [] => return false
  | (keywords, dialects, p) :: others => do
    if ← acceptOnlyIn dialects keywords then
      p
      return true
    acceptOwnCommand others

end NormalForms.Sql.Parser
