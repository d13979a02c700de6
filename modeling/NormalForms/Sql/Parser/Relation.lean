import NormalForms.Sql.Parser.Call

/-!
# Reading relations

What a query takes its rows from: tables, calls, queries in parentheses, and
joins of those. Each may have an alias; which words are one without `AS` is up
to the dialect.
-/

namespace NormalForms.Sql.Parser

/-! ## Aliases -/

/-- Does the token after the next say how many rows there are? -/
def countsRows : Parser Bool := do
  match ← peekAt 1 with
  | some (.number _ _) | some (.placeholder _) => return true
  | some (.string .single text) | some (.string (.dollar _) text) => return text.isEmpty
  | some t => return t.isKeyword "NULL"
  | none => return false

/-- The words that are no alias of a column where nearly all words are one. -/
def strictEndOfItem : List String := [
  "FROM", "GROUP", "HAVING", "INTERSECT", "INTO", "MINUS", "ORDER", "SELECT", "UNION", "WHERE",
  "WITH"]

def strictEndOfTable : List String := [
  "WITH", "ORDER", "SELECT", "WHERE", "GROUP", "HAVING", "LATERAL", "UNION", "INTERSECT", "MINUS",
  "ON", "JOIN", "CROSS", "FULL", "NATURAL", "ASOF", "MATCH_CONDITION", "SET", "QUALIFY", "FOR",
  "START", "CONNECT", "SAMPLE", "TABLESAMPLE", "FROM"]

/-- The words that start no relation where a comma may trail. -/
def noRelation : List String := [
  "ALL", "ALTER", "AND", "ANY", "AS", "BETWEEN", "BY", "CHECK", "COLUMN", "CONNECT", "CREATE",
  "CROSS", "CURRENT", "DELETE", "DISTINCT", "DROP", "ELSE", "EXISTS", "FOLLOWING", "FOR", "FROM",
  "FULL", "GRANT", "GROUP", "HAVING", "ILIKE", "IN", "INCREMENT", "INNER", "INSERT", "INTERSECT",
  "INTO", "IS", "JOIN", "LEFT", "LIKE", "MINUS", "NATURAL", "NOT", "NULL", "OF", "ON", "OR",
  "ORDER", "QUALIFY", "REGEXP", "REVOKE", "RIGHT", "RLIKE", "ROW", "ROWS", "SAMPLE", "SELECT",
  "SET", "SOME", "START", "TABLESAMPLE", "THEN", "TO", "TRIGGER", "UNION", "UNIQUE", "UPDATE",
  "USING", "VALUES", "WHEN", "WHENEVER", "WHERE", "WINDOW", "WITH"]

/-- Does the next word limit the rows, so that it is no alias? -/
def limitsRows (keyword : String) : Parser Bool := do
  if keyword = "LIMIT" ∨ keyword = "OFFSET" then countsRows
  else if keyword = "FETCH" then
    return (← peekAt 1).any (Token.isAnyKeyword ["FIRST", "NEXT"]) || (← countsRows)
  else return false

def isColumnAlias (keyword : String) : Parser Bool := do
  unless ← inDialect [.snowflake] do
    if (← inDialect [.msSql]) && (keyword = "IF" ∨ keyword = "ELSE") then return false
    return !Keyword.endOfItem.contains keyword
  if keyword = "EXCEPT" ∨ keyword = "RETURNING" then
    let next ← peekAt 1
    return next.isNone || next == some (.symbol ",")
  return !strictEndOfItem.contains keyword && !(← limitsRows keyword)

def isTableAlias (keyword : String) : Parser Bool := do
  unless ← inDialect [.snowflake] do
    if (← inDialect [.mySql]) && ["USE", "IGNORE", "FORCE", "STRAIGHT_JOIN"].contains keyword then
      return false
    return !Keyword.endOfTable.contains keyword
  let next ← peekAt 1
  if ["RETURNING", "INNER", "USING", "PIVOT", "UNPIVOT", "EXCEPT", "MATCH_RECOGNIZE"].contains
      keyword then
    return next.isNone || next == some (.symbol ";")
  if ["LEFT", "RIGHT", "SEMI", "ANTI"].contains keyword then
    return !next.any (Token.isAnyKeyword ["JOIN", "OUTER"])
  if keyword = "GLOBAL" then return !next.any (Token.isKeyword "FULL")
  return !strictEndOfTable.contains keyword && !(← limitsRows keyword)

/-- A name that something gets. After `AS` it is any name; otherwise a word must
be admitted. -/
def givenName? (admits : String → Parser Bool) : Parser (Option Name) := do
  let explicit ← acceptWord "AS"
  match ← peek with
  | some (.word text none) =>
    let admitted ← if explicit then pure true else admits (Keyword.ofText text)
    if admitted then return some (← name) else return none
  | some (.word _ _) | some (.string .single _) | some (.string .double _) => return some (← name)
  | _ => if explicit then unexpected "an identifier after AS" else return none

def aliasColumns : Parser String := do
  let columns ← argument? <| items do
    let n ← name
    return n.render ++ ((← attempt dataType).map fun t => " " ++ t.render).getD ""
  return (columns.map fun cs => " (" ++ listed cs ++ ")").getD ""

def tableAlias? : Parser (Option String) := do
  match ← givenName? isTableAlias with
  | some n => return some (n.render ++ (← aliasColumns))
  | none => return none

def aliasText (a : Option String) : List Piece := (a.map fun s => [.text (" AS " ++ s)]).getD []

/-! ## Tables -/

structure Relation where
  pieces : List Piece
  /-- The alias, if it has one. -/
  givenName : Option String := none
  /-- Is it a join in parentheses? -/
  isJoin : Bool := false

def withAlias (pieces : List Piece) : Parser Relation := do
  let givenName ← tableAlias?
  return { pieces := pieces ++ aliasText givenName, givenName }

def tableArguments (parts : Parts) : Parser (List Piece) := do
  if ← accept ")" then return [.text "()"]
  let args ← items (functionArgument parts)
  demand ")"
  return .text "(" :: Piece.listed args ++ [.text ")"]

def tableVersion (parts : Parts) : Parser (List Piece) := do
  unless ← inDialect [.msSql, .snowflake] do return []
  if ← acceptWords ["FOR", "SYSTEM_TIME", "AS", "OF"] then
    return [.text " FOR SYSTEM_TIME AS OF ", .part (← parts.whole)]
  if ← isOneOf ["AT", "BEFORE"] then
    return [.text " ", .part (← callOf parts (← dottedName))]
  return []

def indexHint? : Parser (Option String) := do
  match ← acceptOneOf ["USE", "IGNORE", "FORCE"] with
  | none => return none
  | some choice =>
    let kind ← demandOneOf ["INDEX", "KEY"]
    let purpose ← if ← acceptWord "FOR" then
        match ← acceptFirst [["JOIN"], ["ORDER", "BY"], ["GROUP", "BY"]] with
        | some words => pure (" FOR " ++ String.intercalate " " words)
        | none => unexpected "expected to match USE/IGNORE/FORCE keyword"
      else pure ""
    let names ← inParens (itemsBefore ")" name)
    return some (choice ++ " " ++ kind ++ purpose ++ " " ++ nameList names)

def indexHints : Parser (List Piece) := do
  unless ← inDialect [.mySql] do return []
  match (← attempt (many indexHint?)).getD [] with
  | [] => return []
  | hints => return [.text (" " ++ listed hints)]

/-- Hints about a table in parentheses; otherwise the word for them belongs to
what follows. -/
def tableHints (parts : Parts) : Parser (List Piece) := do
  unless (← isWord "WITH") && (← peekAt 1) == some (.symbol "(") do return []
  skip
  return .text " WITH (" :: Piece.ofExprs (← parenthesized parts.whole) ++ [.text ")"]

def sampleSize (parts : Parts) : Parser (List Piece) := do
  let size ← match ← attempt parts.whole with
    | some e => pure (Piece.part e)
    | none => match ← peek with
      | some (.word text _) => skip; pure (Piece.text text)
      | _ => do
        skip
        refuseHere "Expecting number or byte length e.g. 100M"
  let unit ← acceptOneOf ["ROWS", "PERCENT"]
  return [size, .text ((unit.map (" " ++ ·)).getD "")]

def sampleBucket (parts : Parts) : Parser (List Piece) := do
  let chosen ← unsignedNumber
  demandWords ["OUT", "OF"]
  let all ← unsignedNumber
  return .text ("BUCKET " ++ chosen ++ " OUT OF " ++ all) :: (← clause? ["ON"] parts.pieces)

def sample (parts : Parts) : Parser (List Piece) := do
  match ← acceptOneOf ["TABLESAMPLE", "SAMPLE"] with
  | none => return []
  | some word =>
    let method := (← acceptOneOf ["BERNOULLI", "ROW", "SYSTEM", "BLOCK"]).map (" " ++ ·)
    let closed ← accept "("
    let size ← if ← acceptIf closed (acceptWord "BUCKET") then sampleBucket parts
      else sampleSize parts
    if closed then demand ")"
    let seed ← after? (isOneOf ["REPEATABLE", "SEED"]) do
      let word ← demandOneOf ["REPEATABLE", "SEED"]
      return " " ++ word ++ " (" ++ (← inParens unsignedNumber) ++ ")"
    let offset ← clause? ["OFFSET"] parts.pieces
    return .text (" " ++ word ++ method.getD "" ++ if closed then " (" else " ") :: size ++
      .text ((if closed then ")" else "") ++ seed.getD "") :: offset

def namedTable (parts : Parts) : Parser Relation := do
  let n ← dottedName
  let partitions ← clauseIn? [.generic, .mySql] ["PARTITION"] do
    return [.text (nameList (← parenthesized name))]
  let version ← tableVersion parts
  let args ← if ← accept "(" then tableArguments parts else pure []
  let counted ← if ← acceptWords ["WITH", "ORDINALITY"] then pure " WITH ORDINALITY" else pure ""
  let table ← withAlias (.text n.render :: partitions ++ version ++ args ++ [.text counted])
  let further := (← indexHints) ++ (← tableHints parts) ++ (← sample parts)
  return { table with pieces := table.pieces ++ further }

/-! ## Turned tables -/

def namedExpr (parts : Parts) : Parser (List Piece) := do
  let e ← parts.whole
  return .part e :: aliasText (← after? (acceptWord "AS") do return (← name).render)

def pivotCall (parts : Parts) : Parser (List Piece) := do
  let n ← match ← peek with
    | some (.word text _) => skip; pure { value := text : Name }
    | _ => do
      skip
      unexpected "a function identifier"
  let call ← callOf parts ⟨[n]⟩
  let given ← givenName? fun keyword => do
    if keyword = "FOR" then return false else isColumnAlias keyword
  return .part call :: aliasText (given.map Name.render)

def pivotValues (parts : Parts) : Parser (List Piece) := do
  if ← acceptWord "ANY" then
    let order ← clause? ["ORDER", "BY"] (sortKeys parts)
    return .text "ANY" :: order
  if ← startsQuery then parts.query
  else return Piece.listed (← items (namedExpr parts))

def pivot (parts : Parts) : Parser (List Piece) := do
  demand "("
  let calls ← items (pivotCall parts)
  demandWord "FOR"
  let column : Parser (List Piece) := return [.part (← parts.tighterThan .between)]
  let columns ← if ← isSymbol "(" then do
      pure (.text "(" :: Piece.listed (← parenthesized column) ++ [.text ")"])
    else column
  demandWord "IN"
  let values ← inParens (pivotValues parts)
  let missing ← optional <| after? (acceptWords ["DEFAULT", "ON", "NULL"]) do
    return [.text " DEFAULT ON NULL (", .part (← inParens parts.whole), .text ")"]
  demand ")"
  return .text " PIVOT(" :: Piece.listed calls ++ .text " FOR " :: columns ++ .text " IN (" ::
    values ++ .text ")" :: missing ++ [.text ")"]

def unpivot (parts : Parts) : Parser (List Piece) := do
  let nulls ← acceptOneOf ["INCLUDE", "EXCLUDE"]
  if nulls.isSome then demandWord "NULLS"
  demand "("
  let e ← parts.whole
  demandWord "FOR"
  let n ← name
  demandWord "IN"
  let columns ← columnList (namedExpr parts)
  demand ")"
  let choice := (nulls.map fun w => " " ++ w ++ " NULLS").getD ""
  return .text (" UNPIVOT" ++ choice ++ " (") :: .part e :: .text (" FOR " ++ n.render ++ " IN (") ::
    Piece.listed columns ++ [.text "))"]

/-- A table turned as often as that is told, at most `n` times. -/
def turnedUpTo (parts : Parts) : Nat → Relation → Parser Relation
  | 0, r => return r
  | n + 1, r => do
    let turn ← if ← acceptWord "PIVOT" then some <$> pivot parts
      else if ← acceptWord "UNPIVOT" then some <$> unpivot parts
      else pure none
    match turn with
    | some pieces => turnedUpTo parts n (← withAlias (r.pieces ++ pieces))
    | none => return r

def turned (parts : Parts) (r : Relation) : Parser Relation := do turnedUpTo parts (← bound) r

/-! ## Relations without joins -/

/-- A row of values; a mark of rows is noted in front of it. -/
def valueRow (parts : Parts) : Parser (Bool × List Piece) := do
  let marked ← acceptWord "ROW"
  let mayBeEmpty ← inDialect [.mySql]
  let values ← inParens (if mayBeEmpty then itemsBefore ")" parts.whole else items parts.whole)
  return (marked, .text "(" :: Piece.ofExprs values ++ [.text ")"])

/-- Rows of values, after their word. If one row is marked, all are. -/
def valueRows (parts : Parts) : Parser (List Piece) := do
  let rows ← items (valueRow parts)
  let mark := if rows.any Prod.fst then "ROW" else ""
  return .text "VALUES " :: Piece.listed (rows.map fun r => .text mark :: r.2)

def unnested (parts : Parts) : Parser Relation := do
  let lists ← parenthesized parts.whole
  let counted ← if ← acceptWords ["WITH", "ORDINALITY"] then pure " WITH ORDINALITY" else pure ""
  let table ← withAlias (.text "UNNEST(" :: Piece.ofExprs lists ++ [.text (")" ++ counted)])
  unless ← acceptWords ["WITH", "OFFSET"] do return table
  let offset ← givenName? isColumnAlias
  return { table with
    pieces := table.pieces ++ .text " WITH OFFSET" :: aliasText (offset.map Name.render) }

def derived (parts : Parts) (lead : String) : Parser Relation := do
  let query ← parts.query
  demand ")"
  withAlias (.text (lead ++ "(") :: query ++ [.text ")"])

structure Joined where
  first : Relation
  joins : List (List Piece)

def Joined.pieces (j : Joined) : List Piece := j.first.pieces ++ j.joins.flatten

/-- Joined relations between parentheses, after the first of them. A single one
may stand there only where the dialect says so. -/
def joinInParens (joined : Parser Joined) : Parser Relation := do
  let inner ← joined
  if !inner.joins.isEmpty || inner.first.isJoin then
    demand ")"
    return { ← withAlias (.text "(" :: inner.pieces ++ [.text ")"]) with isJoin := true }
  unless ← inDialect [.generic, .snowflake] do unexpected "joined table"
  demand ")"
  let outer ← withAlias inner.first.pieces
  match outer.givenName, inner.first.givenName with
  | some _, some inner => refuse ("duplicate alias " ++ inner) none
  | none, _ => return inner.first
  | _, _ => return outer

def relation (parts : Parts) (joined : Parser Joined) : Parser Relation := do
  if ← acceptWord "LATERAL" then
    if ← accept "(" then return ← derived parts "LATERAL "
    let n ← dottedName
    demand "("
    return ← withAlias (.text ("LATERAL " ++ n.render) :: (← tableArguments parts))
  if ← acceptWord "TABLE" then
    let e ← inParens parts.whole
    return ← withAlias [.text "TABLE(", .part e, .text ")"]
  if ← accept "(" then
    match ← attempt (derived parts "") with
    | some table => return ← turned parts table
    | none => return ← joinInParens joined
  if (← acceptIf (← inDialect [.generic, .snowflake]) (isWord "VALUES")) &&
      (← peekAt 1) == some (.symbol "(") then
    skip
    return ← withAlias (.text "(" :: (← valueRows parts) ++ [.text ")"])
  if ← acceptOnlyIn [.generic, .postgreSql] ["UNNEST"] then return ← unnested parts
  turned parts (← namedTable parts)

/-! ## Joins -/

def joinCondition (parts : Parts) : Parser (List Piece) := do
  if ← acceptWord "ON" then return clause "ON" (← parts.pieces)
  if ← acceptWord "USING" then
    let columns ← columnList dottedName
    return [.text (" USING(" ++ listed (columns.map DottedName.render) ++ ")")]
  return []

/-- The words of a usual join, as they render; after `NATURAL` they must be there. -/
def joinWords? (natural : Bool) : Parser (Option String) := do
  match (← peek).bind Token.capitals? with
  | some "JOIN" => skip; return some "JOIN"
  | some "STRAIGHT_JOIN" => skip; return some "STRAIGHT_JOIN"
  | some "FULL" =>
    skip
    let _ ← acceptWord "OUTER"
    demandWord "JOIN"
    return some "FULL JOIN"
  | some "OUTER" => unexpected "LEFT, RIGHT, or FULL"
  | some word =>
    if ["INNER", "ANTI", "SEMI"].contains word then
      skip
      demandWord "JOIN"
      return some (word ++ " JOIN")
    if word = "LEFT" ∨ word = "RIGHT" then
      skip
      match ← acceptOneOf ["OUTER", "SEMI", "ANTI", "JOIN"] with
      | some "JOIN" => return some (word ++ " JOIN")
      | some kind =>
        demandWord "JOIN"
        return some (word ++ " " ++ kind ++ " JOIN")
      | none => refuse ("expected OUTER, SEMI, ANTI or JOIN after " ++ word) none
    if natural then unexpected "a join type after NATURAL" else return none
  | none => if natural then unexpected "a join type after NATURAL" else return none

/-- The join that is next, given the parsers of a relation and of further joins.
In one dialect a join without parentheses binds what it joins first. -/
def join? (parts : Parts) (relation : Parser Relation) (joins : Parser (List (List Piece))) :
    Parser (Option (List Piece)) := do
  let global ← mark? "GLOBAL"
  let lead (words : String) : Piece := .text (global ++ " " ++ words ++ " ")
  if ← acceptWord "CROSS" then
    let word ← orElse (acceptOneOf ["JOIN", "APPLY"]) "JOIN or APPLY after CROSS"
    let table ← relation
    let condition ← if word = "JOIN" && (← inDialect [.mySql]) then joinCondition parts
      else pure []
    return some (lead ("CROSS " ++ word) :: table.pieces ++ condition)
  if ← acceptWord "OUTER" then
    demandWord "APPLY"
    return some (lead "OUTER APPLY" :: (← relation).pieces)
  if ← acceptWord "ASOF" then
    demandWord "JOIN"
    let table ← relation
    demandWord "MATCH_CONDITION"
    let e ← inParens parts.whole
    return some (lead "ASOF JOIN" :: table.pieces ++ .text " MATCH_CONDITION (" :: .part e ::
      .text ")" :: (← joinCondition parts))
  let natural ← acceptWord "NATURAL"
  match ← joinWords? natural with
  | none => return none
  | some words =>
    let table ← relation
    let pieces ← if ← acceptIf (← inDialect [.snowflake])
        (isOneOf ["JOIN", "INNER", "LEFT", "RIGHT", "FULL"]) then
        pure (.text "(" :: table.pieces ++ (← joins).flatten ++ [.text ")"])
      else pure table.pieces
    if natural then return some (lead ("NATURAL " ++ words) :: pieces)
    return some (lead words :: pieces ++ (← joinCondition parts))

def joinsUpTo (parts : Parts) (relation : Parser Relation) : Nat → Parser (List (List Piece))
  | 0 => return []
  | n + 1 => do
    match ← join? parts relation (joinsUpTo parts relation n) with
    | some pieces => return pieces :: (← joinsUpTo parts relation n)
    | none => return []

/-- Joined relations in which parentheses nest at most `n` deep. -/
def joinedWithin (parts : Parts) : Nat → Parser Joined
  | 0 => throw .tooDeep
  | n + 1 => do
    let relation := relation parts (joinedWithin parts n)
    let first ← relation
    return ⟨first, ← joinsUpTo parts relation (← bound)⟩

def table (parts : Parts) : Parser (List Piece) := do
  return (← joinedWithin parts (← bound)).pieces

def single (parts : Parts) : Parser (List Piece) := do
  return (← relation parts (joinedWithin parts (← bound))).pieces

def tables (parts : Parts) : Parser (List Piece) := do
  return Piece.listed (← items (table parts))

/-- The relations of a query; in one dialect a comma may trail. -/
def sources (parts : Parts) : Parser (List Piece) := do
  let trailing ← inDialect [.snowflake]
  return Piece.listed (← itemsUpTo trailing noRelation (table parts) (← bound))

end NormalForms.Sql.Parser
