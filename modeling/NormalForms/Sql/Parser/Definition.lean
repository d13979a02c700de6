import NormalForms.Sql.Parser.Alter
import NormalForms.Sql.Parser.Routine
import NormalForms.Sql.Parser.Setting
import NormalForms.Sql.Parser.View

/-!
# Reading definitions

`CREATE` defines tables, which are kept, and other objects, which are read to
their end. One dialect has words of its own before the word for a table; unless a
table follows them, it goes back by as many words as it knows of them.
-/

namespace NormalForms.Sql.Parser

/-! ## Indexes -/

def createIndex (parts : Parts) : Parser Unit := do
  let _ ← acceptWord "CONCURRENTLY"
  let named ← ifMissing
  unless ← acceptIf (!named) (acceptWord "ON") do
    let _ ← dottedName
    indexMethod
    demandWord "ON"
  let _ ← dottedName
  indexMethod
  let _ ← columnList (keyColumn parts)
  maybe ["INCLUDE"] (parenthesized name)
  if ← acceptWord "NULLS" then
    let _ ← acceptWord "NOT"
    demandWord "DISTINCT"
  if ← acceptOnlyIn [.generic, .postgreSql] ["WITH"] then
    let _ ← parenthesized parts.whole
  maybe ["WHERE"] parts.whole
  indexOptions
  let _ ← many <| after? (isOneOf ["ALGORITHM", "LOCK"]) (alterOperation parts)

/-! ## Schemas and databases -/

def createSchema (parts : Parts) : Parser Unit := do
  let _ ← ifMissing
  unless ← isWord "AUTHORIZATION" do discard dottedName
  maybe ["AUTHORIZATION"] name
  maybe ["DEFAULT", "COLLATE"] parts.whole
  let _ ← properties? parts "WITH"
  let _ ← properties? parts "OPTIONS"
  maybe ["CLONE"] dottedName

def createDatabase : Parser Unit := do
  let _ ← ifMissing
  let _ ← dottedName
  let _ ← many <| after? (return (← acceptOneOf ["LOCATION", "MANAGEDLOCATION"]).isSome)
    (discard literalText)
  maybe ["CLONE"] dottedName

def databaseNotes : Parser Unit := do
  if ← acceptWord "TAG" then discard (parenthesized tag)
  else if ← acceptWord "CONTACT" then
    discard <| parenthesized do
      let _ ← name
      demand "="
      discard name
  else unexpected "TAG or CONTACT"

/-- An option of a database of which the order does not matter, after its keyword;
nothing if it is none. -/
def looseDatabaseOption? (parts : Parts) (keyword : String) : Option (Parser Unit) :=
  match keyword with
  | "REPLACE_INVALID_CHARACTERS" => some (assigned truth)
  | "CATALOG_SYNC_NAMESPACE_FLATTEN_DELIMITER" => some (assigned literalText)
  | "CATALOG_SYNC_NAMESPACE_MODE" =>
    some (assigned (orElse (acceptOneOf ["NEST", "FLATTEN"]) "NEST or FLATTEN"))
  | "COMMENT" => some (assigned literalText)
  | "WITH" => some databaseNotes
  | "CLONE" | "DATA_RETENTION_TIME_IN_DAYS" | "MAX_DATA_EXTENSION_TIME_IN_DAYS"
  | "EXTERNAL_VOLUME" | "CATALOG" | "DEFAULT_DDL_COLLATION" | "STORAGE_SERIALIZATION_POLICY"
  | "CATALOG_SYNC" => looseOption? parts keyword
  | _ => none

def createLooseDatabase (parts : Parts) : Parser Unit := do
  let _ ← ifMissing
  let _ ← dottedName
  let _ ← many do
    match ← peek with
    | none | some (.symbol ";") => return none
    | some token =>
      match token.capitals?.bind (looseDatabaseOption? parts) with
      | some option =>
        skip
        option
        return some ()
      | none => unexpected "end of statement"

/-! ## Sequences and types -/

def createSequence : Parser Unit := do
  let _ ← ifMissing
  let _ ← dottedName
  maybe ["AS"] dataType
  sequenceOptions
  if ← acceptWords ["OWNED", "BY"] then
    unless ← acceptWord "NONE" do discard dottedName

def fieldsUpTo : Nat → Parser Unit
  | 0 => return
  | n + 1 => do
    let _ ← name
    let _ ← dataType
    maybe ["COLLATE"] dottedName
    let comma ← accept ","
    if ← accept ")" then return
    unless comma do unexpected "',' or ')' after attribute definition"
    fieldsUpTo n

def createType : Parser Unit := do
  let _ ← dottedName
  demandWord "AS"
  if ← acceptWord "ENUM" then discard (inParens (itemsBefore ")" name))
  else if ← accept "(" then
    unless ← accept ")" do fieldsUpTo (← bound)

def createDomain (parts : Parts) : Parser Unit := do
  let _ ← dottedName
  demandWord "AS"
  let _ ← dataType
  maybe ["COLLATE"] name
  maybe ["DEFAULT"] parts.whole
  let _ ← many (tableConstraint? parts)

/-! ## Connections and secrets -/

def createExtension : Parser Unit := do
  let _ ← ifMissing
  let _ ← name
  if ← acceptWord "WITH" then
    maybe ["SCHEMA"] name
    maybe ["VERSION"] name
    let _ ← acceptWord "CASCADE"

def createVirtualTable : Parser Unit := do
  demandWord "TABLE"
  let _ ← ifMissing
  let _ ← dottedName
  demandWord "USING"
  let _ ← name
  discard (columnList? name)

def createConnector (parts : Parts) : Parser Unit := do
  let _ ← ifMissing
  let _ ← name
  maybe ["TYPE"] literalText
  maybe ["URL"] literalText
  maybe ["COMMENT"] tableComment
  maybe ["WITH", "DCPROPERTIES"] (parenthesized (property parts))

def namePair : Parser Unit := do
  let _ ← name
  discard name

def createServer : Parser Unit := do
  let _ ← ifMissing
  let _ ← dottedName
  maybe ["TYPE"] name
  maybe ["VERSION"] name
  demandWords ["FOREIGN", "DATA", "WRAPPER"]
  let _ ← dottedName
  maybe ["OPTIONS"] (parenthesized namePair)

/-- A secret, after the word for it; it lasts or it does not. -/
def createSecret (contradictory : Bool) : Parser Unit := do
  let _ ← ifMissing
  let mut stored := false
  unless ← isSymbol "(" do
    if ← acceptWord "IN" then stored := (← lenient name).isSome else discard (lenient name)
    if ← acceptIf (!stored) (acceptWord "IN") then discard (lenient name)
  demand "("
  demandWord "TYPE"
  let _ ← name
  if ← accept "," then discard (items namePair)
  demand ")"
  if contradictory then unexpected "TEMPORARY or PERSISTENT"

def createUser : Parser Unit := do
  let _ ← ifMissing
  let _ ← name
  settingsUpTo false ["WITH", "TAG"] settings (← bound)
  let _ ← acceptWord "WITH"
  if ← acceptWord "TAG" then settings

/-! ## Statements -/

/-- The objects of which nothing is kept and that cannot be replaced, each with
the words for it. -/
def freshObjects (parts : Parts) (statement : Parser Statement) :
    List (List String × Parser Unit) := [
  (["EXTENSION"], createExtension), (["INDEX"], createIndex parts),
  (["UNIQUE", "INDEX"], createIndex parts), (["VIRTUAL"], createVirtualTable),
  (["SCHEMA"], createSchema parts), (["DATABASE"], createDatabase), (["ROLE"], createRole),
  (["SEQUENCE"], createSequence), (["TYPE"], createType),
  (["PROCEDURE"], createProcedure parts statement), (["CONNECTOR"], createConnector parts),
  (["SERVER"], createServer)]

/-- The first of some objects whose words are next. -/
def createFirst : List (List String × Parser Unit) → Parser Unit
  | [] => unexpected "an object type after CREATE"
  | (keywords, p) :: others => do
    if ← acceptWords keywords then p else createFirst others

/-- A trigger or a function where the dialect has them, after the words before
the one for it. -/
def createWhere (has : Parser Bool) (keyword : String) (p : Parser Unit) : Parser Unit := do
  unless ← has do unexpected "an object type after CREATE"
  demandWord keyword
  p

def createObject (parts : Parts) (statement : Parser Statement)
    (replacing contradictory : Bool) : Parser Unit := do
  if ← acceptWord "POLICY" then createPolicy parts
  else if ← isWord "FUNCTION" then
    createWhere hasFunctions "FUNCTION" (createFunction parts statement)
  else if ← acceptWord "DOMAIN" then createDomain parts
  else if (← isWord "TRIGGER") || (← acceptIf (← areWords ["CONSTRAINT", "TRIGGER"])
      (acceptWord "CONSTRAINT")) then
    createWhere hasTriggers "TRIGGER" (createTrigger parts statement)
  else if ← isWord "MACRO" then
    createWhere (inDialect [.generic, .duckDb]) "MACRO" (createMacro parts)
  else if ← acceptWord "SECRET" then createSecret contradictory
  else if ← acceptWord "USER" then createUser
  else if replacing then
    unexpected "[EXTERNAL] TABLE or [MATERIALIZED] VIEW or FUNCTION after CREATE OR REPLACE"
  else createFirst (freshObjects parts statement)

def create (parts : Parts) (statement : Parser Statement) : Parser Statement := do
  let replacing ← acceptWords ["OR", "REPLACE"]
  let _ ← acceptWords ["OR", "ALTER"]
  let _ ← acceptWord "LOCAL"
  let _ ← acceptWord "GLOBAL"
  let _ ← acceptWord "TRANSIENT"
  let temporary ← acceptOneOf ["TEMP", "TEMPORARY"]
  let persistent ← acceptOnlyIn [.duckDb] ["PERSISTENT"]
  viewModifiers
  if ← acceptWord "TABLE" then return ← createTable parts
  if ← startsView then createView parts
  else if ← acceptWord "EXTERNAL" then return ← createExternalTable parts
  else createObject parts statement replacing (temporary.isSome && persistent)
  return .other

/-- A definition in the dialect with options in any order, if one is next. What is
no table and no database is read once more as any other statement: from `CREATE`
on, or from a later word if some before it are unknown there. -/
def createLoose? (parts : Parts) : Parser (Option Statement) := do
  let start ← get
  unless ← acceptWord "CREATE" do return none
  let replacing ← acceptWords ["OR", "REPLACE"]
  let _ ← acceptOneOf ["LOCAL", "GLOBAL"]
  let _ ← acceptWord "DYNAMIC"
  let kind ← acceptOneOf ["TEMP", "TEMPORARY", "VOLATILE", "TRANSIENT", "ICEBERG"]
  if ← acceptWord "STAGE" then
    createPlace
    return some .other
  if ← acceptWord "TABLE" then
    let _ ← ifMissing
    return some (.createTable (← looseTable parts (kind == some "ICEBERG") (← dottedName)))
  if ← acceptWord "DATABASE" then
    createLooseDatabase parts
    return some .other
  let temporary := kind == some "TEMP" || kind == some "TEMPORARY"
  let count := 1 + (if replacing then 2 else 0) + (if temporary then 1 else 0)
  set (start.drop (start.length - (← get).length - count))
  return none

end NormalForms.Sql.Parser
