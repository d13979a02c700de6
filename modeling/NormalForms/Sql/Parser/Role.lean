import NormalForms.Sql.Parser.Parts

/-!
# Reading roles

Who owns an object, who may see the rows of a table, and what a role is and may
do.
-/

namespace NormalForms.Sql.Parser

/-! ## Owners -/

/-- Whom something belongs to. A failure tells its own cause after what is wanted. -/
def owner : Parser Unit := fun scope ts =>
  match (acceptOneOf ["CURRENT_USER", "CURRENT_ROLE", "SESSION_USER"]) scope ts with
  | .ok (some _, rest) => .ok ((), rest)
  | _ => match name scope ts with
    | .ok (_, rest) => .ok ((), rest)
    | .error e => .error <| .refused
      ("Expected: CURRENT_USER, CURRENT_ROLE, SESSION_USER or identifier after OWNER TO. " ++
        e.message) none

def grantee : Parser Unit := do
  let n ← dottedName
  if n.parts.length = 1 && (← inDialect [.generic, .mySql]) then
    if ← accept "@" then discard name

/-! ## Policies -/

def policyConditions (parts : Parts) : Parser Unit := do
  maybe ["USING"] (inParens parts.whole)
  maybe ["WITH", "CHECK"] (inParens parts.whole)

def createPolicy (parts : Parts) : Parser Unit := do
  let _ ← name
  demandWord "ON"
  let _ ← dottedName
  if ← acceptWord "AS" then discard (demandOneOf ["PERMISSIVE", "RESTRICTIVE"])
  if ← acceptWord "FOR" then
    discard (demandOneOf ["ALL", "SELECT", "INSERT", "UPDATE", "DELETE"])
  maybe ["TO"] (items owner)
  policyConditions parts

def alterPolicy (parts : Parts) : Parser Unit := do
  let _ ← name
  demandWord "ON"
  let _ ← dottedName
  if ← acceptWord "RENAME" then
    demandWord "TO"
    discard name
  else
    maybe ["TO"] (items owner)
    policyConditions parts

/-! ## New roles -/

/-- What may be said of a new role, each word with what it is about. -/
def newRoleTopics : List (String × String) := [
  ("LOGIN", "LOGIN or NOLOGIN"), ("NOLOGIN", "LOGIN or NOLOGIN"),
  ("INHERIT", "INHERIT or NOINHERIT"), ("NOINHERIT", "INHERIT or NOINHERIT"),
  ("BYPASSRLS", "BYPASSRLS or NOBYPASSRLS"), ("NOBYPASSRLS", "BYPASSRLS or NOBYPASSRLS"),
  ("PASSWORD", "PASSWORD"), ("CREATEDB", "CREATEDB or NOCREATEDB"),
  ("NOCREATEDB", "CREATEDB or NOCREATEDB"), ("CREATEROLE", "CREATEROLE or NOCREATEROLE"),
  ("NOCREATEROLE", "CREATEROLE or NOCREATEROLE"), ("SUPERUSER", "SUPERUSER or NOSUPERUSER"),
  ("NOSUPERUSER", "SUPERUSER or NOSUPERUSER"), ("REPLICATION", "REPLICATION or NOREPLICATION"),
  ("NOREPLICATION", "REPLICATION or NOREPLICATION"), ("CONNECTION", "CONNECTION LIMIT"),
  ("VALID", "VALID UNTIL"), ("IN", "IN"), ("ROLE", "ROLE"), ("ADMIN", "ADMIN"), ("USER", "USER")]

/-- The words of a clause of a new role after the first, and what they make it a
clause about. -/
def newRoleWords (word topic : String) : Parser String := do
  match word with
  | "CONNECTION" => demandWord "LIMIT"
  | "VALID" => demandWord "UNTIL"
  | "IN" =>
    match ← acceptOneOf ["ROLE", "GROUP"] with
    | some kind => return "IN " ++ kind
    | none => unexpected "ROLE or GROUP after IN"
  | _ => pure ()
  return topic

def newRoleClause (topic : String) : Parser Unit := do
  match topic with
  | "AUTHORIZATION" => discard dottedName
  | "PASSWORD" => unless ← acceptWord "NULL" do discard value
  | "CONNECTION LIMIT" => discard unsignedNumber
  | "VALID UNTIL" => discard value
  | "IN ROLE" | "IN GROUP" | "ROLE" | "ADMIN" | "USER" => discard (items name)
  | _ => return

/-- The clauses of a new role, of which none may come twice, at most `n`. -/
def newRoleClausesUpTo (topics : List (String × String)) : Nat → List String → Parser Unit
  | 0, _ => return
  | n + 1, told => do
    let place ← position?
    match ← acceptOneOf (topics.map Prod.fst) with
    | none => return
    | some word =>
      let topic ← newRoleWords word ((topics.lookup word).getD "")
      if told.contains topic then refuse ("Found multiple " ++ topic) place
      newRoleClause topic
      newRoleClausesUpTo topics n (topic :: told)

def createRole : Parser Unit := do
  let _ ← acceptWords ["IF", "NOT", "EXISTS"]
  let _ ← items dottedName
  let _ ← acceptWord "WITH"
  let topics := match (← read).dialect with
    | .msSql => [("AUTHORIZATION", "AUTHORIZATION")]
    | .postgreSql => newRoleTopics
    | _ => []
  newRoleClausesUpTo topics (← bound) []

/-! ## What a role may do -/

def rightWords : List String := [
  "BYPASSRLS", "NOBYPASSRLS", "CREATEDB", "NOCREATEDB", "CREATEROLE", "NOCREATEROLE", "INHERIT",
  "NOINHERIT", "LOGIN", "NOLOGIN", "REPLICATION", "NOREPLICATION", "SUPERUSER", "NOSUPERUSER"]

def roleOption : Parser Unit := do
  if (← acceptOneOf rightWords).isSome then return
  if ← acceptWord "CONNECTION" then
    demandWord "LIMIT"
    discard unsignedNumber
  else if ← acceptWord "PASSWORD" then
    unless ← acceptWord "NULL" do discard value
  else if ← acceptWord "VALID" then
    demandWord "UNTIL"
    discard value
  else unexpected "option"

def roleSetting (parts : Parts) : Parser Unit := do
  let _ ← dottedName
  if ← acceptWords ["FROM", "CURRENT"] then return
  unless (← accept "=") || (← acceptWord "TO") do unexpected "'TO' or '=' or 'FROM CURRENT'"
  unless ← acceptWord "DEFAULT" do
    if (← lenient parts.whole).isNone then unexpected "config value"

/-- A change of a role, in a dialect with properties of roles. -/
def alterRoleOptions (parts : Parts) : Parser Unit := do
  let _ ← name
  maybe ["IN", "DATABASE"] (lenient dottedName)
  if ← acceptWord "RENAME" then
    unless ← acceptWord "TO" do unexpected "TO after RENAME"
    discard name
  else if ← acceptWord "SET" then roleSetting parts
  else if ← acceptWord "RESET" then
    unless ← acceptWord "ALL" do discard dottedName
  else
    let _ ← acceptWord "WITH"
    if (← many (attempt roleOption)).isEmpty then unexpected "option"

def alterRoleMembers : Parser Unit := do
  let _ ← name
  if (← acceptFirst [["ADD", "MEMBER"], ["DROP", "MEMBER"]]).isSome then discard name
  else if ← acceptWords ["WITH", "NAME"] then
    unless ← accept "=" do unexpected "= after WITH NAME "
    discard name
  else unexpected "'ADD' or 'DROP' or 'WITH NAME'"

def alterRole (parts : Parts) : Parser Unit := do
  if ← inDialect [.postgreSql] then alterRoleOptions parts
  else if ← inDialect [.msSql] then alterRoleMembers
  else refuse "ALTER ROLE is only support for PostgreSqlDialect, MsSqlDialect" none

end NormalForms.Sql.Parser
