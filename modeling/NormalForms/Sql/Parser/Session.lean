import NormalForms.Sql.Parser.Setting
import NormalForms.Sql.Parser.Transaction

/-!
# Reading settings of a session

`SET` gives variables values, for a session or longer. Some variables have words
of their own instead of a name and an equals sign, and one dialect needs no sign.
-/

namespace NormalForms.Sql.Parser

/-! ## Values of variables -/

def variableValue (parts : Parts) : Parser Unit := do
  if ← startsQuery then discard parts.query
  else if (← lenient parts.whole).isNone then unexpected "variable value"

def assignmentSign : Parser Bool := do
  if ← accept "=" then return true else acceptWord "TO"

/-- The values of a variable. Here no comma trails. -/
def variableValues (parts : Parts) : Parser Unit := do
  discard (itemsUpTo false [] (variableValue parts) (← bound))

/-- For how long a variable is set. -/
def variableScope? : Parser Bool := return (← acceptOneOf ["SESSION", "LOCAL", "GLOBAL"]).isSome

def variableAssignment (parts : Parts) : Parser Unit := do
  let _ ← variableScope?
  if (← inDialect [.generic, .snowflake]) && (← isSymbol "(") then
    unexpected "Unparenthesized assignment"
  let _ ← dottedName
  unless ← assignmentSign do unexpected "assignment operator"
  discard parts.whole

/-! ## Variables with words of their own -/

def setRole : Parser Unit := do
  demandWord "ROLE"
  unless ← acceptWord "NONE" do discard name

def timeZoneWords : Parser Bool :=
  return (← acceptFirst [["TIME", "ZONE"], ["TIMEZONE"]]).isSome

def setNames : Parser Unit := do
  unless ← acceptWord "DEFAULT" do
    let _ ← name
    maybe ["COLLATE"] literalText

def setTransaction : Parser Unit := do
  if ← acceptWord "SNAPSHOT" then discard value else transactionModes

/-- A setting of a session that has words of its own, if one is next; `hasScope`
says whether it was told for how long it holds. -/
def specialSetting? (parts : Parts) (hasScope : Bool) : Parser Bool := do
  let start ← get
  if (← attempt setRole).isSome then return true
  if ← timeZoneWords then
    if ← assignmentSign then variableValues parts else discard parts.whole
  else if ← acceptOnlyIn [.generic, .mySql, .postgreSql] ["NAMES"] then setNames
  else if ← acceptWord "CHARACTERISTICS" then
    demandWords ["AS", "TRANSACTION"]
    transactionModes
  else if ← acceptWord "TRANSACTION" then setTransaction
  else if ← acceptWord "AUTHORIZATION" then
    unless hasScope do
      throw (.unexpected "SESSION, LOCAL, or other scope modifier before AUTHORIZATION" start.head?)
    unless ← acceptWord "DEFAULT" do discard name
  else return false
  return true

/-! ## Settings without a sign -/

def onOrOff : Parser Unit := discard (orElse (acceptOneOf ["ON", "OFF"]) "ON or OFF")

def wordList (wanted : String) : Parser Unit :=
  discard <| items do
    match ← peek with
    | some (.word _ _) => skip
    | _ => unexpected wanted

/-- A setting that needs no sign before its value. -/
def plainSetting (parts : Parts) : Parser Unit := do
  if ← acceptWord "STATISTICS" then
    let _ ← orElse (acceptOneOf ["IO", "PROFILE", "TIME", "XML"]) "IO, PROFILE, TIME or XML"
    onOrOff
  else if ← acceptWord "IDENTITY_INSERT" then
    let _ ← dottedName
    onOrOff
  else if ← acceptWord "OFFSETS" then
    wordList "SQL keyword"
    onOrOff
  else
    wordList "Session param name"
    discard parts.whole

/-! ## Statements -/

/-- One variable, or several in parentheses, and the values. -/
def assignedVariables (parts : Parts) : Parser Unit := do
  let start ← get
  let several ← acceptIf (← inDialect [.generic, .snowflake]) (accept "(")
  if several then
    let _ ← items name
    demand ")"
  else discard dottedName
  if ← assignmentSign then
    if several then inParens (variableValues parts) else variableValues parts
  else if ← inDialect [.msSql] then
    backSince start
    plainSetting parts
  else unexpected "equals sign or TO"

def setVariables (parts : Parts) : Parser Unit := do
  let foreign ← acceptWord "HIVEVAR"
  if foreign then demand ":"
  let start ← get
  let hasScope ← acceptIf (!foreign) variableScope?
  if ← specialSetting? parts hasScope then return
  if ← inDialect [.generic, .mySql] then
    set start
    if (← attempt (items (variableAssignment parts))).isSome then return
  assignedVariables parts

def alterSession : Parser Unit := do
  let sets := (← orElse (acceptOneOf ["SET", "UNSET"]) "SET or UNSET") = "SET"
  let told ← many do
    match ← peek with
    | none | some (.symbol ";") => return none
    | some (.symbol ",") => skip; return some false
    | some (.word _ _) =>
      skip
      if sets then setting settings
      return some true
    | some _ => unexpected "another option or end of statement"
  unless told.contains true do refuse "expected at least one option" none

def use : Parser Unit := do
  if ← inDialect [.snowflake] then
    match ← acceptOneOf ["DATABASE", "SCHEMA", "WAREHOUSE", "ROLE", "SECONDARY"] with
    | some "SECONDARY" =>
      let _ ← demandOneOf ["ROLES", "ROLE"]
      if (← acceptOneOf ["NONE", "ALL"]).isNone then discard (items name)
      return
    | _ => pure ()
  discard dottedName

def pragmaValue : Parser Unit := do
  let before ← get
  match ← value with
  | .string .single _ | .string .double _ | .number _ | .placeholder _ => return
  | _ => throw (.unexpected "number or string or ? placeholder" before.head?)

def pragma : Parser Unit := do
  let _ ← dottedName
  if ← isSymbol "(" then inParens pragmaValue
  else if ← accept "=" then pragmaValue

end NormalForms.Sql.Parser
