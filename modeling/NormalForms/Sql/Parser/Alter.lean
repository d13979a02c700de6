import NormalForms.Sql.Parser.Role
import NormalForms.Sql.Parser.Table

/-!
# Reading changes of tables

`ALTER TABLE` lists operations on one table. The constraints that it adds are
kept; every other operation is read to its end.
-/

namespace NormalForms.Sql.Parser

def dropBehavior : Parser Unit := discard (acceptOneOf ["CASCADE", "RESTRICT"])

def settingOf (keywords : List String) (wanted : String) : Parser Unit := do
  let _ ← accept "="
  discard (orElse (acceptOneOf keywords) wanted)

/-! ## Columns -/

def columnPlace : Parser Unit := do
  unless ← inDialect [.generic, .mySql] do return
  unless ← acceptWord "FIRST" do maybe ["AFTER"] name

/-- A type with options, as a column gets them anew. -/
def columnForm (parts : Parts) : Parser Unit := do
  let _ ← dataType
  let _ ← many (columnOption? parts)
  columnPlace

def newType (parts : Parts) : Parser Unit := do
  let _ ← dataType
  if ← inDialect [.generic, .postgreSql] then maybe ["USING"] parts.whole

def columnChange (parts : Parts) : Parser Unit := do
  if (← acceptFirst [["SET", "NOT", "NULL"], ["DROP", "NOT", "NULL"]]).isSome then return
  if ← acceptWords ["SET", "DEFAULT"] then discard parts.whole
  else if ← acceptWords ["DROP", "DEFAULT"] then return
  else if (← acceptFirst [["SET", "DATA", "TYPE"], ["TYPE"]]).isSome then newType parts
  else if ← acceptWords ["ADD", "GENERATED"] then
    let _ ← acceptFirst [["ALWAYS"], ["BY", "DEFAULT"]]
    demandWords ["AS", "IDENTITY"]
    if ← isSymbol "(" then inParens sequenceOptions
  else if ← inDialect [.postgreSql] then
    unexpected "SET/DROP NOT NULL, SET DEFAULT, SET DATA TYPE, or ADD GENERATED after ALTER COLUMN"
  else unexpected "SET/DROP NOT NULL, SET DEFAULT, or SET DATA TYPE after ALTER COLUMN"

/-! ## Projections and partitions -/

/-- A selection that a table keeps sorted, after the word for it. -/
def newProjection (parts : Parts) : Parser Unit := do
  let _ ← ifMissing
  let _ ← name
  inParens do
    demandWord "SELECT"
    let _ ← selectItems parts
    let _ ← groups parts
    discard (rowOrder parts)

def projection : Parser Unit := do
  let _ ← ifPresent
  let _ ← name
  maybe ["IN", "PARTITION"] name

def tablePart (parts : Parts) : Parser Unit := do
  let _ ← demandOneOf ["PART", "PARTITION"]
  discard parts.whole

/-- A part of a table that is kept under a name perhaps. -/
def namedPart (parts : Parts) : Parser Unit := do
  tablePart parts
  if ← acceptWord "WITH" then
    demandWord "NAME"
    discard name

def partitionName (parts : Parts) : Parser Unit := do
  let _ ← parenthesized parts.whole
  demandWords ["RENAME", "TO", "PARTITION"]
  discard (parenthesized parts.whole)

/-! ## Additions and removals -/

def newColumn (parts : Parts) : Parser Unit := do
  let _ ← ifMissing
  let partitions ← many (after? (acceptWord "PARTITION") (parenthesized parts.whole))
  if partitions.isEmpty then
    let _ ← acceptWord "COLUMN"
    if ← inDialect [.generic, .postgreSql, .duckDb] then discard ifMissing
    let _ ← columnDefinition parts
    columnPlace

def addition (parts : Parts) : Parser AlterOperation := do
  match ← tableConstraint? parts with
  | some c =>
    let _ ← acceptWords ["NOT", "VALID"]
    return .addConstraint c
  | none =>
    if ← acceptOnlyIn [.generic] ["PROJECTION"] then newProjection parts else newColumn parts
    return .other

def columnRemoval : Parser Unit := do
  let _ ← acceptWord "COLUMN"
  let _ ← ifPresent
  if ← inDialect [.generic, .msSql, .snowflake] then discard (items name) else discard name
  dropBehavior

def removal (parts : Parts) : Parser Unit := do
  if (← acceptFirst [["IF", "EXISTS", "PARTITION"], ["PARTITION"]]).isSome then
    discard (parenthesized parts.whole)
  else if ← acceptWord "CONSTRAINT" then
    let _ ← ifPresent
    let _ ← name
    dropBehavior
  else if ← acceptWords ["PRIMARY", "KEY"] then dropBehavior
  else if ← acceptWords ["FOREIGN", "KEY"] then
    let _ ← name
    dropBehavior
  else if ← acceptWord "INDEX" then discard name
  else if ← acceptIn [.generic] ["PROJECTION"] then
    let _ ← ifPresent
    discard name
  else unless ← acceptWords ["CLUSTERING", "KEY"] do columnRemoval

def newName : Parser Unit := do
  if ← acceptOnlyIn [.postgreSql] ["CONSTRAINT"] then
    let _ ← name
    demandWord "TO"
    discard name
  else if (← acceptOneOf ["TO", "AS"]).isSome then discard dottedName
  else
    let _ ← acceptWord "COLUMN"
    let _ ← name
    demandWord "TO"
    discard name

/-! ## Rules, triggers and identities -/

def enabling : Parser Unit := do
  if ← acceptWords ["ROW", "LEVEL", "SECURITY"] then return
  match ← acceptFirst [["ALWAYS", "RULE"], ["ALWAYS", "TRIGGER"], ["REPLICA", "RULE"],
      ["REPLICA", "TRIGGER"], ["RULE"], ["TRIGGER"]] with
  | some _ => discard name
  | none => unexpected "ALWAYS, REPLICA, ROW LEVEL SECURITY, RULE, or TRIGGER after ENABLE"

def disabling : Parser Unit := do
  if ← acceptWords ["ROW", "LEVEL", "SECURITY"] then return
  match ← acceptOneOf ["RULE", "TRIGGER"] with
  | some _ => discard name
  | none => unexpected "ROW LEVEL SECURITY, RULE, or TRIGGER after DISABLE"

/-- By what the rows of a table are told apart elsewhere, after the words for it. -/
def replicaIdentity : Parser Unit := do
  if (← acceptOneOf ["NONE", "FULL", "DEFAULT"]).isSome then return
  unless ← acceptWords ["USING", "INDEX"] do
    unexpected "NONE, FULL, DEFAULT, or USING INDEX index_name after REPLICA IDENTITY"
  discard name

/-! ## Operations -/

/-- An operation of which nothing is kept, after its keyword. -/
def silentOperation? (parts : Parts) (keyword : String) : Option (Parser Unit) :=
  match keyword with
  | "RENAME" => some newName
  | "DISABLE" => some disabling
  | "ENABLE" => some enabling
  | "DROP" => some (removal parts)
  | "PARTITION" => some (partitionName parts)
  | "CHANGE" => some do
    let _ ← acceptWord "COLUMN"
    let _ ← name
    let _ ← name
    columnForm parts
  | "MODIFY" => some do
    let _ ← acceptWord "COLUMN"
    let _ ← name
    columnForm parts
  | "ALTER" => some do
    let _ ← acceptWord "COLUMN"
    let _ ← name
    columnChange parts
  | "SWAP" => some do
    demandWord "WITH"
    discard dottedName
  | "LOCK" => some <| settingOf ["DEFAULT", "EXCLUSIVE", "NONE", "SHARED"]
    "DEFAULT, EXCLUSIVE, NONE or SHARED after LOCK [=]"
  | "ALGORITHM" => some <| settingOf ["DEFAULT", "INSTANT", "INPLACE", "COPY"]
    "DEFAULT, INSTANT, INPLACE, or COPY after ALGORITHM [=]"
  | "AUTO_INCREMENT" => some do
    let _ ← accept "="
    discard unsignedNumber
  | _ => none

/-- An operation on a part of a table, in the dialect that has them. -/
def partOperation? (parts : Parts) : Parser Bool := do
  unless ← inDialect [.generic] do return false
  match ← acceptOneOf ["ATTACH", "DETACH", "FREEZE", "UNFREEZE"] with
  | some word =>
    if word = "ATTACH" ∨ word = "DETACH" then tablePart parts else namedPart parts
    return true
  | none => return false

/-- An operation of which nothing is kept and whose first word does not tell it
from others, if one is next. -/
def wordyOperation? (parts : Parts) : Parser Bool := do
  if ← acceptOnlyIn [.generic, .postgreSql] ["OWNER", "TO"] then
    owner
    return true
  if ← partOperation? parts then return true
  if ← acceptWords ["CLUSTER", "BY"] then
    let _ ← parenthesized parts.whole
    return true
  if (← acceptFirst [["SUSPEND", "RECLUSTER"], ["RESUME", "RECLUSTER"]]).isSome then return true
  if ← acceptWords ["REPLICA", "IDENTITY"] then
    replicaIdentity
    return true
  if ← acceptWords ["VALIDATE", "CONSTRAINT"] then
    let _ ← name
    return true
  if ← acceptWords ["SET", "TBLPROPERTIES"] then
    let _ ← parenthesized (property parts)
    return true
  properties? parts "SET"

/-- The operation that is next. The words for a projection are read in every
dialect. -/
def alterOperation (parts : Parts) : Parser AlterOperation := do
  if ← acceptWord "ADD" then return ← addition parts
  if (← acceptIn [.generic] ["CLEAR", "PROJECTION"]) ||
      (← acceptIn [.generic] ["MATERIALIZE", "PROJECTION"]) then
    projection
    return .other
  match (← peek).bind fun t => t.capitals?.bind (silentOperation? parts) with
  | some operation =>
    skip
    operation
  | none =>
    unless ← wordyOperation? parts do
      unexpected <| "ADD, RENAME, PARTITION, SWAP, DROP, REPLICA IDENTITY, SET, or SET " ++
        "TBLPROPERTIES after ALTER TABLE"
  return .other

/-! ## Statements -/

def alterTable (parts : Parts) : Parser Statement := do
  let _ ← ifPresent
  let _ ← acceptWord "ONLY"
  let n ← dottedName
  maybe ["ON", "CLUSTER"] name
  let operations ← items (alterOperation parts)
  if (← acceptFirst [["LOCATION"], ["SET", "LOCATION"]]).isSome then discard name
  return .alterTable n operations

def alterDynamicTable : Parser Statement := do
  let n ← dottedName
  if (← acceptOneOf ["REFRESH", "SUSPEND", "RESUME"]).isNone then
    unexpected "REFRESH, SUSPEND, or RESUME after ALTER DYNAMIC TABLE"
  return .alterTable n [.other]

def alterIndex : Parser Unit := do
  let _ ← dottedName
  unless ← acceptWord "RENAME" do unexpected "RENAME after ALTER INDEX"
  unless ← acceptWord "TO" do unexpected "TO after RENAME"
  discard dottedName

def alterView (parts : Parts) : Parser Unit := do
  let _ ← dottedName
  let _ ← columnList? name
  let _ ← properties? parts "WITH"
  demandWord "AS"
  discard parts.query

def alterType : Parser Unit := do
  let _ ← dottedName
  if ← acceptWords ["RENAME", "TO"] then discard name
  else if ← acceptWords ["ADD", "VALUE"] then
    let _ ← ifMissing
    let _ ← name
    if (← acceptOneOf ["BEFORE", "AFTER"]).isSome then discard name
  else if ← acceptWords ["RENAME", "VALUE"] then
    let _ ← name
    demandWord "TO"
    discard name
  else unexpected "\x7bRENAME TO | \x7b RENAME | ADD \x7d VALUE\x7d"

def alterConnector (parts : Parts) : Parser Unit := do
  let _ ← name
  demandWord "SET"
  maybe ["DCPROPERTIES"] (parenthesized (property parts))
  maybe ["URL"] literalText
  if ← acceptWord "OWNER" then
    let _ ← demandOneOf ["USER", "ROLE"]
    discard name

def alterSchema (parts : Parts) : Parser Unit := do
  let _ ← ifPresent
  let _ ← dottedName
  if ← acceptWords ["SET", "OPTIONS"] then discard (properties parts)
  else if ← acceptWords ["SET", "DEFAULT", "COLLATE"] then discard parts.whole
  else if ← acceptWords ["ADD", "REPLICA"] then
    let _ ← name
    discard (properties? parts "OPTIONS")
  else if ← acceptWords ["DROP", "REPLICA"] then discard name
  else if ← acceptWords ["RENAME", "TO"] then discard dottedName
  else if ← acceptWords ["OWNER", "TO"] then owner
  else unexpected "ALTER SCHEMA operation"

/-- A change of an object other than a table, after the word for it. -/
def alterObject (parts : Parts) (kind : String) : Parser Unit :=
  match kind with
  | "VIEW" => alterView parts
  | "INDEX" => alterIndex
  | "TYPE" => alterType
  | "ROLE" => alterRole parts
  | "POLICY" => alterPolicy parts
  | "CONNECTOR" => alterConnector parts
  | _ => alterSchema parts

def alter (parts : Parts) : Parser Statement := do
  match ← demandOneOf ["VIEW", "TYPE", "TABLE", "INDEX", "ROLE", "POLICY", "CONNECTOR", "ICEBERG",
      "SCHEMA"] with
  | "TABLE" => alterTable parts
  | "ICEBERG" =>
    demandWord "TABLE"
    alterTable parts
  | kind =>
    alterObject parts kind
    return .other

end NormalForms.Sql.Parser
