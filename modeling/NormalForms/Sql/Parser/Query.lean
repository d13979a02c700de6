import NormalForms.Sql.Parser.Change

/-!
# Reading queries

A query has queries with names in front of its rows, and says after them how
they are sorted, limited, locked and shown. It is read to pieces, as it renders.
-/

namespace NormalForms.Sql.Parser

/-! ## Queries with names -/

def materialization : Parser String := do
  unless ← inDialect [.postgreSql] do return ""
  match ← acceptFirst [["MATERIALIZED"], ["NOT", "MATERIALIZED"]] with
  | some words => return String.intercalate " " words ++ " "
  | none => return ""

def commonTable (parts : Parts) : Parser (List Piece) := do
  let n ← name
  let lead ← if ← acceptWord "AS" then do pure (" AS " ++ (← materialization))
    else do
      let columns ← aliasColumns
      demandWord "AS"
      pure (columns ++ " AS ")
  let query ← parts.subquery
  let from_ ← clause? ["FROM"] do return [.text (← name).render]
  return .text (n.render ++ lead) :: query ++ from_

def commonTables (parts : Parts) : Parser (List Piece) :=
  optional <| after? (acceptWord "WITH") do
    let recursive := if ← acceptWord "RECURSIVE" then "RECURSIVE " else ""
    let tables ← items (commonTable parts)
    return .text ("WITH " ++ recursive) :: Piece.listed tables ++ [.text " "]

/-! ## Order and number of rows -/

/-- A column whose gaps are filled, and by what. -/
def interpolation (parts : Parts) : Parser (List Piece) := do
  let n ← name
  return .text n.render :: (← clause? ["AS"] parts.pieces)

def interpolations (parts : Parts) : Parser (List Piece) := do
  unless ← acceptOnlyIn [.generic] ["INTERPOLATE"] do return []
  unless ← isSymbol "(" do return [.text " INTERPOLATE"]
  let columns ← inParens (itemsBefore ")" (interpolation parts))
  return .text " INTERPOLATE (" :: Piece.listed columns ++ [.text ")"]

def rowOrder (parts : Parts) : Parser (List Piece) :=
  clause? ["ORDER", "BY"] do
    if ← acceptOnlyIn [.duckDb] ["ALL"] then return [.text ("ALL" ++ (← sortDirection))]
    let keys ← sortKeys parts
    return keys ++ (← interpolations parts)

def rowOffset (parts : Parts) : Parser (List Piece) :=
  clause? ["OFFSET"] do
    let e ← parts.whole
    let unit ← acceptOneOf ["ROW", "ROWS"]
    return [.part e, .text ((unit.map (" " ++ ·)).getD "")]

def rowLimit (parts : Parts) : Parser (List Piece) := do
  let early ← rowOffset parts
  unless ← acceptWord "LIMIT" do return early
  let limit ← if ← acceptWord "ALL" then pure none else some <$> parts.whole
  if let some e := limit then
    if early.isEmpty && (← inDialect [.generic, .mySql, .sqlite]) && (← accept ",") then
      return [.text " LIMIT ", .part e, .text ", ", .part (← parts.whole)]
  let groups ← clauseIn? [.generic] ["BY"] parts.list
  let offset ← if early.isEmpty then rowOffset parts else pure early
  return (limit.map fun e => [.text " LIMIT ", .part e]).getD [] ++ offset ++ groups

def querySettings (parts : Parts) : Parser (List Piece) :=
  clauseIn? [.generic] ["SETTINGS"] do
    return Piece.listed (← items do
      let n ← name
      demand "="
      return [.text (n.render ++ " = "), .part (← parts.whole)])

def rowFetch : Parser (List Piece) :=
  optional <| after? (acceptWord "FETCH") do
    let _ ← acceptOneOf ["FIRST", "NEXT"]
    let count ← if (← acceptOneOf ["ROW", "ROWS"]).isSome then pure ""
      else do
        let count ← value
        let share ← mark? "PERCENT"
        let _ ← acceptOneOf ["ROW", "ROWS"]
        pure (" " ++ count.render ++ share)
    let ties ← if ← acceptWord "ONLY" then pure false else acceptWords ["WITH", "TIES"]
    return [.text (" FETCH FIRST" ++ count ++ " ROWS " ++ if ties then "WITH TIES" else "ONLY")]

/-! ## Locks and formats -/

/-- A text in parentheses and quotes, if there is one. -/
def formName : Parser String := do
  return ((← argument? literalText).map fun text => "('" ++ text ++ "')").getD ""

/-- Which of some options are told, each after a comma. -/
def formOptions (option : Parser (Option String)) : Parser (List String) := do
  let told ← many (after? (accept ",") option)
  return told.filterMap id

def rootOption? : Parser (Option String) :=
  after? (acceptWord "ROOT") do return ", ROOT('" ++ (← inParens literalText) ++ "')"

def xmlForm : Parser String := do
  let shape ← match ← acceptOneOf ["RAW", "AUTO", "EXPLICIT", "PATH"] with
    | some "RAW" => do pure ("RAW" ++ (← formName))
    | some "PATH" => do pure ("PATH" ++ (← formName))
    | some word => pure word
    | none => refuse "Expected FOR XML [RAW | AUTO | EXPLICIT | PATH ]" none
  let told ← formOptions do
    if ← acceptWord "ELEMENTS" then return some ", ELEMENTS"
    if ← acceptWord "BINARY" then
      demandWord "BASE64"
      return some ", BINARY BASE64"
    if ← acceptWord "TYPE" then return some ", TYPE"
    rootOption?
  let ordered := [", BINARY BASE64", ", TYPE"].filter told.contains ++
    (told.filter fun o => Text.startsWith o ", ROOT").getLast?.toList ++
    [", ELEMENTS"].filter told.contains
  return "XML " ++ shape ++ String.join ordered

def jsonForm : Parser String := do
  let shape ← match ← acceptOneOf ["AUTO", "PATH"] with
    | some word => pure word
    | none => refuse "Expected FOR JSON [AUTO | PATH ]" none
  let told ← formOptions do
    if ← acceptWord "INCLUDE_NULL_VALUES" then return some ", INCLUDE_NULL_VALUES"
    if ← acceptWord "WITHOUT_ARRAY_WRAPPER" then return some ", WITHOUT_ARRAY_WRAPPER"
    rootOption?
  let ordered := (told.filter fun o => Text.startsWith o ", ROOT").getLast?.toList ++
    [", INCLUDE_NULL_VALUES", ", WITHOUT_ARRAY_WRAPPER"].filter told.contains
  return "JSON " ++ shape ++ String.join ordered

def rowLock : Parser String := do
  let strength ← demandOneOf ["UPDATE", "SHARE"]
  let tables ← after? (acceptWord "OF") dottedName
  let wait ← acceptFirst [["NOWAIT"], ["SKIP", "LOCKED"]]
  return strength ++ (tables.map fun n => " OF " ++ n.render).getD "" ++
    (wait.map fun ws => " " ++ String.intercalate " " ws).getD ""

/-- The locks of the rows, or the form in which they are told, which comes last;
at most `n` of them. -/
def purposesUpTo : Nat → Parser (List Piece)
  | 0 => return []
  | n + 1 => do
    unless ← acceptWord "FOR" do return []
    if ← acceptWord "XML" then return [.text (" FOR " ++ (← xmlForm))]
    if ← acceptWord "JSON" then return [.text (" FOR " ++ (← jsonForm))]
    if ← acceptWord "BROWSE" then return [.text " FOR BROWSE"]
    let lock ← rowLock
    return .text (" FOR " ++ lock) :: (← purposesUpTo n)

def rowFormat : Parser (List Piece) :=
  clauseIn? [.generic] ["FORMAT"] do
    if ← acceptWord "NULL" then return [.text "NULL"]
    return [.text (← name).render]

/-! ## Queries -/

/-- A change of rows in the place of a body, which leaves no pieces. -/
def change? (parts : Parts) : Parser Bool := do
  match ← acceptOneOf ["INSERT", "UPDATE", "DELETE", "MERGE"] with
  | some "INSERT" => insert parts
  | some "UPDATE" => update parts
  | some "DELETE" => delete parts
  | some _ => merge parts
  | none => return false
  return true

def query (parts : Parts) : Parser (List Piece) := do
  let common ← commonTables parts
  if ← change? parts then return common
  let rows ← body parts
  let order ← rowOrder parts
  let limit ← rowLimit parts
  let settings ← querySettings parts
  let fetch ← rowFetch
  let purposes ← purposesUpTo (← bound)
  return common ++ rows ++ order ++ limit ++ settings ++ fetch ++ purposes ++ (← rowFormat)

end NormalForms.Sql.Parser
