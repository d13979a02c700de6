import NormalForms.Sql.Parser.Parts

/-!
# Reading properties

Options between parentheses, each a name and its value; some dialects have a few
that are told in words.
-/

namespace NormalForms.Sql.Parser

/-! ## Properties in words -/

def rangePartition (parts : Parts) : Parser Unit := inParens do
  let _ ← name
  demandWord "RANGE"
  let _ ← acceptOneOf ["LEFT", "RIGHT"]
  demandWords ["FOR", "VALUES"]
  discard (parenthesized parts.whole)

def clustering : Parser Unit := do
  if ← acceptWords ["CLUSTERED", "COLUMNSTORE", "INDEX", "ORDER"] then discard (columnList name)
  else if ← acceptWords ["CLUSTERED", "COLUMNSTORE", "INDEX"] then return
  else if ← acceptWords ["CLUSTERED", "INDEX"] then
    discard <| parenthesized do
      let _ ← name
      acceptOneOf ["ASC", "DESC"]
  else refuse "invalid CLUSTERED sequence" none

/-! ## Lists of properties -/

def property (parts : Parts) : Parser Unit := do
  if ← inDialect [.generic, .msSql] then
    if ← acceptWord "HEAP" then return
    if ← acceptWord "PARTITION" then return ← rangePartition parts
    if ← isWord "CLUSTERED" then return ← clustering
  let _ ← name
  demand "="
  discard parts.whole

/-- Properties between parentheses, and whether there are any. -/
def properties (parts : Parts) : Parser Bool := do
  return !(← inParens (itemsBefore ")" (property parts))).isEmpty

def properties? (parts : Parts) (keyword : String) : Parser Bool := do
  if ← acceptWord keyword then properties parts else return false

end NormalForms.Sql.Parser
