import NormalForms.Sql.Parser.Role

/-!
# Reading privileges

Who may do what with which objects: `GRANT` gives privileges, `REVOKE` takes them
back and `DENY` keeps them from somebody.
-/

namespace NormalForms.Sql.Parser

/-! ## Privileges -/

/-- The privileges of several words, which come before those of one. -/
def longPrivileges : List (List String) := [
  ["IMPORTED", "PRIVILEGES"], ["ADD", "SEARCH", "OPTIMIZATION"], ["ATTACH", "LISTING"],
  ["ATTACH", "POLICY"], ["BIND", "SERVICE", "ENDPOINT"], ["DATABASE", "ROLE"],
  ["EVOLVE", "SCHEMA"], ["IMPORT", "SHARE"], ["MANAGE", "VERSIONS"], ["MANAGE", "RELEASES"],
  ["OVERRIDE", "SHARE", "RESTRICTIONS"], ["PURCHASE", "DATA", "EXCHANGE", "LISTING"],
  ["RESOLVE", "ALL"], ["READ", "SESSION"]]

def shortPrivileges : List String := [
  "APPLY", "APPLYBUDGET", "AUDIT", "CONNECT", "CREATE", "DELETE", "DROP", "EXEC", "EXECUTE",
  "FAILOVER", "INSERT", "MANAGE", "MODIFY", "MONITOR", "OPERATE", "REFERENCES", "READ",
  "REPLICATE", "ROLE", "SELECT", "TEMPORARY", "TRIGGER", "TRUNCATE", "UPDATE", "USAGE",
  "OWNERSHIP"]

def appliedRules : List (List String) :=
  (["AGGREGATION", "AUTHENTICATION", "JOIN", "MASKING", "PACKAGES", "PASSWORD",
    "PROJECTION"].map fun w => [w, "POLICY"]) ++
  [["ROW", "ACCESS", "POLICY"], ["SESSION", "POLICY"], ["TAG"]]

def madeObjects : List (List String) := [
  ["APPLICATION", "PACKAGE"], ["COMPUTE", "POOL"], ["DATA", "EXCHANGE", "LISTING"],
  ["EXTERNAL", "VOLUME"], ["FAILOVER", "GROUP"], ["NETWORK", "POLICY"],
  ["ORGANIZATION", "LISTING"], ["REPLICATION", "GROUP"], ["ACCOUNT"], ["APPLICATION"],
  ["DATABASE"], ["INTEGRATION"], ["ROLE"], ["SCHEMA"], ["SHARE"], ["USER"], ["WAREHOUSE"]]

def runObjects : List (List String) := [
  ["DATA", "METRIC", "FUNCTION"], ["ALERT"], ["MANAGED", "ALERT"], ["MANAGED", "TASK"], ["TASK"]]

def managedThings : List (List String) := [
  ["ACCOUNT", "SUPPORT", "CASES"], ["EVENT", "SHARING"], ["GRANTS"],
  ["LISTING", "AUTO", "FULFILLMENT"], ["ORGANIZATION", "SUPPORT", "CASES"],
  ["USER", "SUPPORT", "CASES"], ["WAREHOUSES"]]

def privilegeScope : List String → Parser Unit
  | ["DATABASE", "ROLE"] | ["ROLE"] => discard dottedName
  | ["INSERT"] | ["REFERENCES"] | ["SELECT"] | ["UPDATE"] => discard (columnList? name)
  | ["APPLY"] => discard (orElse (acceptFirst appliedRules) "GRANT APPLY type")
  | ["MANAGE"] => discard (orElse (acceptFirst managedThings) "GRANT MANAGE type")
  | ["CREATE"] => discard (acceptFirst madeObjects)
  | ["EXEC"] | ["EXECUTE"] => discard (acceptFirst runObjects)
  | ["MODIFY"] => discard (acceptFirst [["LOG", "LEVEL"], ["TRACE", "LEVEL"],
      ["SESSION", "LOG", "LEVEL"], ["SESSION", "TRACE", "LEVEL"]])
  | ["MONITOR"] => discard (acceptOneOf ["EXECUTION", "SECURITY", "USAGE"])
  | _ => return

def privilege : Parser Unit := do
  let all := longPrivileges ++ shortPrivileges.map fun w => [w]
  privilegeScope (← orElse (acceptFirst all) "a privilege keyword")

def privileges : Parser Unit := do
  if ← acceptWord "ALL" then discard (acceptWord "PRIVILEGES")
  else discard (itemsUpTo (← inDialect [.duckDb]) ["ON"] privilege (← bound))

/-! ## Objects -/

/-- A dotted name of which a star may be a part. -/
def starName : Parser Unit := do
  let starPart : Parser Unit := do unless ← accept "*" do discard part
  starPart
  if ← accept "." then
    unless (← inDialect [.msSql, .snowflake]) && (← isSymbol ".") do starPart
    discard (many (after? (accept ".") starPart))

/-- The words for all objects of a kind that there are or will be, and for some
kinds of two words. -/
def objectGroups : List (List String) :=
  let tables := [["TABLES"], ["EXTERNAL", "TABLES"], ["VIEWS"], ["MATERIALIZED", "VIEWS"],
    ["SEQUENCES"]]
  ((["FUNCTIONS"] :: tables).map fun ws => "ALL" :: ws ++ ["IN", "SCHEMA"]) ++
  [["FUTURE", "SCHEMAS", "IN", "DATABASE"]] ++
  (tables.map fun ws => "FUTURE" :: ws ++ ["IN", "SCHEMA"]) ++
  [["RESOURCE", "MONITOR"], ["COMPUTE", "POOL"], ["FAILOVER", "GROUP"], ["REPLICATION", "GROUP"],
    ["EXTERNAL", "VOLUME"]]

def privilegeObjects : Parser Unit := do
  if (← acceptFirst objectGroups).isSome then discard (items dottedName)
  else
    let kind ← acceptOneOf ["SEQUENCE", "DATABASE", "SCHEMA", "TABLE", "VIEW", "WAREHOUSE",
      "INTEGRATION", "USER", "CONNECTION", "PROCEDURE", "FUNCTION"]
    let _ ← items starName
    if (kind == some "PROCEDURE" || kind == some "FUNCTION") && (← isSymbol "(") then
      discard (inParens (itemsBefore ")" dataType))

/-- Privileges, and whether it is said what they are about. -/
def privilegesOnObjects : Parser Bool := do
  privileges
  return (← after? (acceptWord "ON") privilegeObjects).isSome

/-! ## Grantees -/

def granteeKinds : List (List String) := [
  ["ROLE"], ["USER"], ["SHARE"], ["GROUP"], ["PUBLIC"], ["DATABASE", "ROLE"],
  ["APPLICATION", "ROLE"], ["APPLICATION"]]

/-- Those who get privileges, at most `n`. A kind holds until another is told;
everyone has no name. -/
def granteesUpTo : Nat → Bool → Parser Unit
  | 0, _ => return
  | n + 1, everyone => do
    let isName ← acceptIf (← inDialect [.msSql]) (isWord "PUBLIC")
    let kind ← if isName then pure none else acceptFirst granteeKinds
    let everyone := (kind.map (· == ["PUBLIC"])).getD everyone
    unless everyone do
      grantee
      if ← accept ":" then discard name
    if ← accept "," then granteesUpTo n everyone

def grantees : Parser Unit := do granteesUpTo (← bound) false

/-! ## Statements -/

def grantedBy : Parser Unit := maybe ["GRANTED", "BY"] name

def grant : Parser Unit := do
  let _ ← privilegesOnObjects
  demandWord "TO"
  grantees
  let _ ← acceptWords ["WITH", "GRANT", "OPTION"]
  let _ ← acceptFirst [["COPY", "CURRENT", "GRANTS"], ["REVOKE", "CURRENT", "GRANTS"]]
  maybe ["AS"] name
  grantedBy

def deny : Parser Unit := do
  unless ← privilegesOnObjects do refuseHere "DENY statements must specify an object"
  demandWord "TO"
  grantees
  let _ ← acceptOneOf ["CASCADE", "RESTRICT"]
  maybe ["AS"] name

def revoke : Parser Unit := do
  let _ ← privilegesOnObjects
  demandWord "FROM"
  grantees
  grantedBy
  discard (acceptOneOf ["CASCADE", "RESTRICT"])

end NormalForms.Sql.Parser
