import NormalForms.Sql.Parser.Expr

/-!
# Reading cursors and variables

`DECLARE` names a query whose rows are fetched one after the other, or, in some
dialects, a variable.
-/

namespace NormalForms.Sql.Parser

/-! ## Declarations -/

def declareCursor (parts : Parts) : Parser Unit := do
  let _ ← name
  let _ ← acceptWord "BINARY"
  let _ ← acceptOneOf ["INSENSITIVE", "ASENSITIVE"]
  let _ ← acceptFirst [["SCROLL"], ["NO", "SCROLL"]]
  demandWord "CURSOR"
  if (← acceptOneOf ["WITH", "WITHOUT"]).isSome then demandWord "HOLD"
  demandWord "FOR"
  discard parts.query

/-- A cursor or a variable with a type, whose name then starts with a mark. -/
def typedDeclaration (parts : Parts) : Parser Unit := do
  let n ← name
  let isCursor ← isWord "CURSOR"
  unless Text.startsWith n.value "@" || isCursor do
    refuse "Invalid MsSql variable declaration." none
  if isCursor then skip
  else
    let _ ← acceptWord "AS"
    discard dataType
  if ← acceptWord "FOR" then discard parts.query
  else if ← accept "=" then discard parts.whole

def firstValue? (parts : Parts) : Parser Bool := do
  if (← acceptWord "DEFAULT") || (← accept ":=") then
    let _ ← parts.whole
    return true
  return false

/-- A cursor, a set of rows, a failure or a variable, of which the type may be
missing. -/
def looseDeclaration (parts : Parts) : Parser Unit := do
  let _ ← name
  if ← acceptWord "CURSOR" then
    demandWord "FOR"
    if ← isWord "SELECT" then discard parts.query else discard parts.whole
  else if ← acceptWord "RESULTSET" then discard (firstValue? parts)
  else if ← acceptWord "EXCEPTION" then
    if ← isSymbol "(" then discard parts.whole
  else unless ← firstValue? parts do
    if let some (.word _ _) := ← peek then
      let _ ← dataType
      discard (firstValue? parts)

/-- Declarations with semicolons between them; a keyword starts no further one. -/
def looseDeclarations (parts : Parts) : Parser Unit := do
  looseDeclaration parts
  let _ ← many do
    match ← peek, ← peekAt 1 with
    | some (.symbol ";"), some (.word text _) =>
      if Keyword.isKnown (Keyword.ofText text) then return none
      skip
      looseDeclaration parts
      return some ()
    | _, _ => return none

def declarations (parts : Parts) : Parser Unit := do
  if ← inDialect [.snowflake] then looseDeclarations parts
  else if ← inDialect [.msSql] then discard (items (typedDeclaration parts))
  else declareCursor parts

/-! ## Rows of cursors -/

def fetchDirection : Parser Unit := do
  match ← acceptOneOf ["NEXT", "PRIOR", "FIRST", "LAST", "ABSOLUTE", "RELATIVE", "FORWARD",
      "BACKWARD", "ALL"] with
  | some "ABSOLUTE" | some "RELATIVE" | none => discard unsignedNumber
  | some "FORWARD" | some "BACKWARD" => unless ← acceptWord "ALL" do discard unsignedNumber
  | some _ => return

def fetch : Parser Unit := do
  fetchDirection
  if (← acceptOneOf ["FROM", "IN"]).isNone then refuseHere "Expected FROM or IN"
  let _ ← name
  maybe ["INTO"] dottedName

def closeCursor : Parser Unit := do
  unless ← acceptWord "ALL" do discard name

end NormalForms.Sql.Parser
