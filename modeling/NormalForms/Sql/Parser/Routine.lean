import NormalForms.Sql.Parser.Constraint

/-!
# Reading routines

Functions, procedures, macros and triggers, and the statements that they are made
of: blocks, choices and loops. The parsers of what holds statements take that of
a statement as an argument.
-/

namespace NormalForms.Sql.Parser

/-! ## Lists of statements -/

/-- Statements with a semicolon after each, up to one of the keywords or the
end, at most `n`. -/
def statementListUpTo (statement : Parser Statement) (keywords : List String) : Nat → Parser Unit
  | 0 => return
  | n + 1 => do
    if (← peek).isNone || (← isOneOf keywords) then return
    let _ ← statement
    demand ";"
    statementListUpTo statement keywords n

def statementList (statement : Parser Statement) (keywords : List String) : Parser Unit := do
  statementListUpTo statement keywords (← bound)

/-- Statements of their own, or between `BEGIN` and `END`. -/
def routineBody (statement : Parser Statement) (keywords : List String) : Parser Unit := do
  let inBlock ← acceptWord "BEGIN"
  statementList statement keywords
  if inBlock then demandWord "END"

/-! ## Blocks -/

def handler (statement : Parser Statement) : Parser Unit := do
  demandWord "WHEN"
  let _ ← many do
    if ← acceptWord "THEN" then return none
    let _ ← name
    let _ ← acceptWord "OR"
    return some ()
  statementList statement ["WHEN", "END"]

def block (statement : Parser Statement) : Parser Unit := do
  statementList statement ["EXCEPTION", "END"]
  if ← acceptWord "EXCEPTION" then
    let _ ← many do
      if ← isWord "END" then return none
      handler statement
      return some ()
  demandWord "END"

/-- Statements without a mark between them, up to a keyword or the end, at most
`n`; semicolons may follow each. -/
def looseListUpTo (statement : Parser Statement) (keyword : String) : Nat → Parser Unit
  | 0 => return
  | n + 1 => do
    if (← peek).isNone || (← isWord keyword) then return
    let _ ← statement
    let _ ← many (after? (accept ";") (return ()))
    looseListUpTo statement keyword n

/-- One statement, or several between `BEGIN` and `END`. -/
def soleOrBlock (statement : Parser Statement) : Parser Unit := do
  if ← acceptWord "BEGIN" then
    looseListUpTo statement "END" (← bound)
    demandWord "END"
  else discard statement

/-! ## Choices and loops -/

def conditional (parts : Parts) (statement : Parser Statement) (keywords : List String) :
    Parser Unit := do
  let _ ← parts.whole
  demandWord "THEN"
  routineBody statement keywords

def caseStatement (parts : Parts) (statement : Parser Statement) : Parser Unit := do
  unless ← isWord "WHEN" do discard parts.whole
  demandWord "WHEN"
  conditional parts statement ["WHEN", "ELSE", "END"]
  let _ ← many (after? (acceptWord "WHEN") (conditional parts statement ["WHEN", "ELSE", "END"]))
  maybe ["ELSE"] (routineBody statement ["END"])
  demandWord "END"
  discard (acceptWord "CASE")

def ifStatement (parts : Parts) (statement : Parser Statement) : Parser Unit := do
  conditional parts statement ["ELSE", "ELSEIF", "END"]
  let _ ← many <| after? (acceptWord "ELSEIF")
    (conditional parts statement ["ELSEIF", "ELSE", "END"])
  maybe ["ELSE"] (routineBody statement ["END"])
  demandWords ["END", "IF"]

/-- A choice whose condition and statements stand next to each other, after the
first word. The semicolons before `ELSE` belong to it. -/
def plainIf (parts : Parts) (statement : Parser Statement) : Parser Unit := do
  let _ ← parts.whole
  soleOrBlock statement
  let start ← get
  let marks ← many (after? (accept ";") (return ()))
  if ← acceptWord "ELSE" then soleOrBlock statement
  else unless marks.isEmpty do backSince start

def whileStatement (parts : Parts) (statement : Parser Statement) : Parser Unit := do
  let _ ← parts.whole
  routineBody statement ["END"]

def raiseStatement (parts : Parts) : Parser Unit := do
  if ← acceptWords ["USING", "MESSAGE"] then
    demand "="
    discard parts.whole
  else discard (attempt parts.whole)

/-! ## Arguments -/

def argumentMode : Parser Unit := discard (acceptOneOf ["IN", "OUT", "INOUT"])

/-- An argument of a function: a name perhaps, a type, and a value perhaps. What
stands before a type is a name. -/
def routineArgument (parts : Parts) : Parser Unit := do
  argumentMode
  let start ← get
  let _ ← dataType
  let last ← lastSince start
  if (← attempt dataType).isSome then
    match last.map Located.token with
    | some (.word _ _) => pure ()
    | _ => throw (.unexpected "a name or type" last)
  if (← acceptWord "DEFAULT") || (← accept "=") then discard parts.whole

def namedArgument (parts : Parts) : Parser Unit := do
  let _ ← name
  let _ ← dataType
  if ← accept "=" then discard parts.whole

def functionName (parts : Parts) : Parser Unit := do
  let _ ← dottedName
  if ← accept "(" then
    unless ← accept ")" do
      let _ ← items (routineArgument parts)
      demand ")"

/-! ## Functions -/

/-- The clauses of a function by their words, and what each of them tells. -/
def functionClauses : List (List String × String) :=
  let volatility := "IMMUTABLE | STABLE | VOLATILE"
  let nulls := "CALLED ON NULL INPUT | RETURNS NULL ON NULL INPUT | STRICT"
  [(["AS"], "AS"), (["LANGUAGE"], "LANGUAGE"), (["IMMUTABLE"], volatility),
    (["STABLE"], volatility), (["VOLATILE"], volatility),
    (["CALLED", "ON", "NULL", "INPUT"], nulls), (["RETURNS", "NULL", "ON", "NULL", "INPUT"], nulls),
    (["STRICT"], nulls), (["PARALLEL"], "PARALLEL \x7b UNSAFE | RESTRICTED | SAFE \x7d"),
    (["RETURN"], "RETURN")]

def functionText : Parser Unit := do
  match ← peek with
  | some (.string (.dollar _) _) =>
    if ← inDialect [.generic, .postgreSql] then skip else discard literalText
  | _ => discard literalText

def functionClause (parts : Parts) (words : List String) : Parser Unit := do
  match words with
  | ["AS"] => functionText
  | ["LANGUAGE"] => discard name
  | ["PARALLEL"] =>
    discard (orElse (acceptOneOf ["UNSAFE", "RESTRICTED", "SAFE"])
      "one of UNSAFE | RESTRICTED | SAFE")
  | ["RETURN"] => discard parts.whole
  | _ => return

/-- The clauses of a function in any order, at most `n`. What it does may be told
in two ways; everything is told once. -/
def functionClausesUpTo (parts : Parts) : Nat → List String → Parser Unit
  | 0, _ => return
  | n + 1, told => do
    match ← acceptFirst (functionClauses.map Prod.fst) with
    | none => return
    | some words =>
      let topic := (functionClauses.lookup words).getD ""
      let rivals := if ["AS", "RETURN"].contains topic then ["AS", "RETURN"] else [topic]
      if rivals.any told.contains then refuse (topic ++ " specified more than once") none
      functionClause parts words
      functionClausesUpTo parts n (topic :: told)

/-- A function whose clauses follow its name, after the word for it. -/
def clausedFunction (parts : Parts) : Parser Unit := do
  let _ ← dottedName
  demand "("
  unless ← isSymbol ")" do discard (items (routineArgument parts))
  demand ")"
  maybe ["RETURNS"] dataType
  functionClausesUpTo parts (← bound) []

def createMacro (parts : Parts) : Parser Unit := do
  let _ ← dottedName
  demand "("
  unless ← isSymbol ")" do
    let _ ← items do
      let _ ← name
      if (← accept ":=") || (← accept "=>") then discard parts.whole
  demand ")"
  demandWord "AS"
  if ← acceptWord "TABLE" then discard parts.query else discard parts.whole

def namedTableType : Parser Unit := do
  let _ ← name
  unless ← isWord "TABLE" do unexpected "TABLE"
  unless (← peekAt 1) == some (.symbol "(") do unexpected "("
  let _ ← dataType

/-- A function that is a block or a query, after the word for it. -/
def blockFunction (parts : Parts) (statement : Parser Statement) : Parser Unit := do
  let _ ← dottedName
  demand "("
  let _ ← itemsBefore ")" (namedArgument parts)
  demand ")"
  demandWord "RETURNS"
  if (← attempt namedTableType).isNone then discard dataType
  let _ ← acceptWord "AS"
  if ← acceptWord "BEGIN" then
    statementList statement ["END"]
    demandWord "END"
  else if ← acceptWord "RETURN" then
    if ← isSymbol "(" then discard parts.whole
    else if ← acceptWord "SELECT" then discard (select parts none)
    else refuseHere "Expected a subquery (or bare SELECT statement) after RETURN"
  else refuseHere "Unparsable function body"

def hasFunctions : Parser Bool := inDialect [.generic, .postgreSql, .duckDb, .msSql]

def createFunction (parts : Parts) (statement : Parser Statement) : Parser Unit := do
  if ← inDialect [.duckDb] then createMacro parts
  else if ← inDialect [.msSql] then blockFunction parts statement
  else clausedFunction parts

/-! ## Procedures -/

def procedureArgumentsUpTo (parts : Parts) : Nat → Parser Unit
  | 0 => return
  | n + 1 => do
    if let some (.word _ _) := ← peek then
      argumentMode
      namedArgument parts
    let comma ← accept ","
    if ← accept ")" then return
    unless comma do unexpected "',' or ')' after parameter definition"
    procedureArgumentsUpTo parts n

def createProcedure (parts : Parts) (statement : Parser Statement) : Parser Unit := do
  let _ ← dottedName
  if ← accept "(" then
    unless ← accept ")" do procedureArgumentsUpTo parts (← bound)
  maybe ["LANGUAGE"] name
  demandWord "AS"
  routineBody statement ["END"]

/-! ## Triggers -/

def hasTriggers : Parser Bool := inDialect [.generic, .mySql, .postgreSql, .sqlite, .msSql]

def triggerPeriod : Parser Unit := do
  if (← demandOneOf ["FOR", "BEFORE", "AFTER", "INSTEAD"]) = "INSTEAD" then demandWord "OF"

def triggerEvent : Parser Unit := do
  if (← demandOneOf ["INSERT", "UPDATE", "DELETE", "TRUNCATE"]) = "UPDATE" then
    maybe ["OF"] (items name)

def changedRows? : Parser Bool := do
  match ← acceptOneOf ["OLD", "NEW"] with
  | none => return false
  | some _ =>
    unless ← acceptWord "TABLE" do return false
    let _ ← acceptWord "AS"
    let _ ← dottedName
    return true

def triggerAction (parts : Parts) (statement : Parser Statement) : Parser Unit := do
  if ← acceptWord "EXECUTE" then
    let _ ← demandOneOf ["FUNCTION", "PROCEDURE"]
    functionName parts
  else routineBody statement ["END"]

def createTrigger (parts : Parts) (statement : Parser Statement) : Parser Unit := do
  let _ ← dottedName
  let _ ← attempt triggerPeriod
  triggerEvent
  let _ ← many (after? (acceptWord "OR") triggerEvent)
  demandWord "ON"
  let _ ← dottedName
  maybe ["FROM"] (lenient dottedName)
  enforcement
  if ← acceptWord "REFERENCING" then
    let _ ← many (after? changedRows? (return ()))
  if ← acceptWord "FOR" then
    let _ ← acceptWord "EACH"
    let _ ← demandOneOf ["ROW", "STATEMENT"]
  maybe ["WHEN"] parts.whole
  triggerAction parts statement

/-- A trigger that names its table first, after the word for it. -/
def createTableTrigger (statement : Parser Statement) : Parser Unit := do
  let _ ← dottedName
  demandWord "ON"
  let _ ← dottedName
  triggerPeriod
  let _ ← items triggerEvent
  demandWord "AS"
  routineBody statement ["END"]

end NormalForms.Sql.Parser
