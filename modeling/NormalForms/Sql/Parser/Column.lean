import NormalForms.Sql.Parser.Expr
import NormalForms.Sql.Parser.Property
import NormalForms.Sql.Statement

/-!
# Reading columns

A column has a name, a type and options. An option that a dialect lacks is read
all the same as far as its keywords go, and says nothing then.
-/

namespace NormalForms.Sql.Parser

/-! ## References -/

def referentialAction : Parser Unit := do
  let action ← acceptFirst
    [["RESTRICT"], ["CASCADE"], ["SET", "NULL"], ["NO", "ACTION"], ["SET", "DEFAULT"]]
  if action.isNone then
    unexpected "one of RESTRICT, CASCADE, SET NULL, NO ACTION or SET DEFAULT"

def referentialActions : Parser Unit := do
  if ← acceptWords ["ON", "DELETE"] then
    referentialAction
    if ← acceptWords ["ON", "UPDATE"] then referentialAction
  else if ← acceptWords ["ON", "UPDATE"] then
    referentialAction
    if ← acceptWords ["ON", "DELETE"] then referentialAction

def initially : Parser Unit := do
  if (← acceptOneOf ["DEFERRED", "IMMEDIATE"]).isNone then
    unexpected "one of DEFERRED or IMMEDIATE"

def enforcement : Parser Unit := do
  eachOnce 3 [["NOT", "DEFERRABLE"], ["DEFERRABLE"], ["INITIALLY"], ["ENFORCED"],
    ["NOT", "ENFORCED"]]
where
  /-- Reads at most `n` of the choices, of those with the same last word one. -/
  eachOnce (n : Nat) (choices : List (List String)) : Parser Unit := do
    match n, ← acceptFirst choices with
    | n + 1, some words =>
      if words = ["INITIALLY"] then initially
      eachOnce n (choices.filter fun ws => ws.getLast? != words.getLast?)
    | _, _ => return

def reference : Parser (DottedName × List Name) := do
  let target ← dottedName
  let columns ← columnList? name
  referentialActions
  enforcement
  return (target, columns)

/-! ## Values of options -/

/-- A condition between parentheses, in which no option of a column ends it. -/
def condition (parts : Parts) : Parser Expr := inParens (within .usual parts.whole)

/-- The value of an option: a parenthesized expression, or one that may stand on
its own. -/
def optionValue (parts : Parts) : Parser Expr := do
  if ← isSymbol "(" then within .usual (operand parts) else parts.whole

def sequenceOptions : Parser Unit := do
  let clause (p : Parser Bool) (rest : Parser Unit) : Parser Unit := do if ← p then rest
  let numberAfter (keyword : String) : Parser Unit := do
    let _ ← acceptWord keyword
    let _ ← number
  clause (acceptWord "INCREMENT") (numberAfter "BY")
  unless ← acceptWords ["NO", "MINVALUE"] do
    clause (acceptWord "MINVALUE") (discard number)
  unless ← acceptWords ["NO", "MAXVALUE"] do
    clause (acceptWord "MAXVALUE") (discard number)
  clause (acceptWord "START") (numberAfter "WITH")
  clause (acceptWord "CACHE") (discard number)
  unless ← acceptWords ["NO", "CYCLE"] do
    let _ ← acceptWord "CYCLE"

def countingNumbers : Parser Unit := inParens do
  let _ ← number
  demand ","
  let _ ← number

/-! ## Options -/

def computedMode : Parser Unit := do
  if ← acceptWord "STORED" then return
  if ← inDialect [.postgreSql] then unexpected "STORED"
  let _ ← acceptWord "VIRTUAL"

/-- A column that is generated, after that word; nothing if it is not said how. -/
def generated? (parts : Parts) : Parser (Option ColumnOption) := do
  let counts ← acceptFirst [["ALWAYS", "AS", "IDENTITY"], ["BY", "DEFAULT", "AS", "IDENTITY"]]
  if counts.isSome then
    if ← isSymbol "(" then inParens sequenceOptions
    return some .other
  if (← acceptWords ["ALWAYS", "AS"]) && (← isSymbol "(") then
    let _ ← condition parts
    computedMode
    return some .other
  return none

def computed (parts : Parts) : Parser Unit := do
  let _ ← inParens parts.whole
  let _ ← acceptOneOf ["STORED", "VIRTUAL"]

def counting : Parser Unit := do
  if ← isSymbol "(" then countingNumbers
  else if ← acceptWord "START" then
    let _ ← number
    demandWord "INCREMENT"
    let _ ← number
  let _ ← acceptOneOf ["ORDER", "NOORDER"]

def tag : Parser Unit := do
  let _ ← dottedName
  demand "="
  let _ ← literalText

def columnPolicy : Parser Unit := do
  let _ ← dottedName
  if ← acceptWord "USING" then
    let _ ← parenthesized name

/-- The options that one dialect has alone, after `WITH` perhaps. -/
def ownOption? : Parser (Option ColumnOption) := do
  let start ← get
  let _ ← acceptWord "WITH"
  if (← acceptOneOf ["IDENTITY", "AUTOINCREMENT"]).isSome then counting
  else if (← acceptFirst [["MASKING", "POLICY"], ["PROJECTION", "POLICY"]]).isSome then
    columnPolicy
  else if ← acceptWord "TAG" then
    let _ ← parenthesized tag
  else
    set start
    return none
  return some .other

/-- Options that say nothing about constraints and come before them. -/
def leadingOption? (parts : Parts) : Parser Bool := do
  unless ← inDialect [.generic] do return false
  if (← acceptOneOf ["MATERIALIZED", "ALIAS"]).isSome then
    let _ ← optionValue parts
    return true
  if ← acceptWord "EPHEMERAL" then
    unless (← isSymbol ",") || (← isSymbol ")") do
      let _ ← optionValue parts
    return true
  return false

/-- Options that say nothing about constraints and come after them. -/
def trailingOption? (parts : Parts) : Parser Bool := do
  if ← acceptIn [.generic, .mySql] ["AUTO_INCREMENT"] then return true
  if ← acceptIn [.generic, .sqlite] ["AUTOINCREMENT"] then return true
  if ← acceptIn [.generic, .sqlite] ["ASC"] then return true
  if ← acceptIn [.generic, .sqlite] ["DESC"] then return true
  if ← acceptIn [.generic, .mySql] ["ON", "UPDATE"] then
    let _ ← optionValue parts
    return true
  if ← acceptWord "GENERATED" then return (← generated? parts).isSome
  if ← acceptOnlyIn [.generic] ["OPTIONS"] then
    let _ ← properties parts
    return true
  if ← acceptIn [.generic, .mySql, .sqlite, .duckDb] ["AS"] then
    computed parts
    return true
  if ← acceptIn [.generic, .mySql] ["SRID"] then
    let _ ← optionValue parts
    return true
  if ← acceptIn [.generic, .msSql] ["IDENTITY"] then
    if ← isSymbol "(" then countingNumbers
    return true
  if ← acceptOnlyIn [.generic, .sqlite] ["ON", "CONFLICT"] then
    let _ ← demandOneOf ["ROLLBACK", "ABORT", "FAIL", "IGNORE", "REPLACE"]
    return true
  return false

def columnOption? (parts : Parts) : Parser (Option ColumnOption) := within .column do
  if ← inDialect [.snowflake] then
    if let some o ← ownOption? then return some o
  if (← acceptFirst [["CHARACTER", "SET"], ["COLLATE"]]).isSome then
    let _ ← dottedName
    return some .other
  if ← acceptWords ["NOT", "NULL"] then return some .notNull
  if ← acceptWord "COMMENT" then
    remark
    return some .other
  if ← acceptWord "NULL" then return some .null
  if ← acceptWord "DEFAULT" then return some (.default (← optionValue parts))
  if ← leadingOption? parts then return some .other
  if ← acceptWords ["PRIMARY", "KEY"] then
    enforcement
    return some .primaryKey
  if ← acceptWord "UNIQUE" then
    enforcement
    return some .unique
  if ← acceptWord "REFERENCES" then
    let (target, columns) ← reference
    return some (.references target columns)
  if ← acceptWord "CHECK" then return some (.check (← condition parts))
  if ← trailingOption? parts then return some .other
  return none

def namedOption? (parts : Parts) : Parser (Option (Option Name × ColumnOption)) := do
  if ← acceptWord "CONSTRAINT" then
    let n ← name
    return some (n, ← orElse (columnOption? parts) "constraint details after CONSTRAINT <name>")
  return (← columnOption? parts).map (none, ·)

/-! ## Columns -/

/-- The words that may follow the name of a column without a type. -/
def afterUntyped : List String :=
  ["CONSTRAINT", "PRIMARY", "NOT", "UNIQUE", "CHECK", "DEFAULT", "COLLATE", "REFERENCES",
    "GENERATED", "AS"]

def lacksType : Parser Bool := do
  unless ← inDialect [.sqlite] do return false
  match ← peek with
  | some (.word _ _) => isOneOf afterUntyped
  | _ => return true

def columnDefinition (parts : Parts) : Parser ColumnDefinition := do
  let n ← name
  let type ← if ← lacksType then pure .missing else dataType
  return { name := n, type, options := ← many (namedOption? parts) }

end NormalForms.Sql.Parser
