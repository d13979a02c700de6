import NormalForms.Sql.Parser.Relation

/-!
# Reading selections

`SELECT` with its clauses, rows of values and whole tables, and the operators
between sets of rows. Clauses are kept in the order in which they render.
-/

namespace NormalForms.Sql.Parser

/-! ## Columns -/

def nameOrList (p : Parser String) : Parser String := do
  if ← isSymbol "(" then return "(" ++ listed (← parenthesized p) ++ ")" else p

/-- An expression for a column that has its name already. -/
def replacement (parts : Parts) : Parser (List Piece) := do
  let e ← parts.whole
  let lead := if ← acceptWord "AS" then " AS " else " "
  return [.part e, .text (lead ++ (← name).render)]

/-- The columns that a star stands for, told by a pattern or left out. -/
def starColumns : Parser (List Piece) := do
  let pattern ← after? (acceptOnlyIn [.generic, .snowflake] ["ILIKE"]) do
    match ← peek with
    | some (.string .single text) => skip; return Piece.text (" ILIKE " ++ singleQuoted text)
    | _ => unexpected "ilike pattern"
  if let some p := pattern then return [p]
  unless ← acceptOnlyIn [.generic, .snowflake, .duckDb] ["EXCLUDE"] do return []
  return [.text (" EXCLUDE " ++ (← nameOrList do return (← name).render))]

def starOptions (parts : Parts) : Parser (List Piece) := do
  let chosen ← starColumns
  let others ← clauseIn? [.generic] ["EXCEPT"] do
    if ← isSymbol "(" then return [.text (nameList (← parenthesized name))]
    return [.text ("(" ++ (← name).render ++ ")")]
  let replaced ← clauseIn? [.generic, .duckDb, .snowflake] ["REPLACE"] do
    unless ← isSymbol "(" do unexpected "( after REPLACE but"
    return .text "(" :: Piece.listed (← parenthesized (replacement parts)) ++ [.text ")"]
  let renamed ← clauseIn? [.generic, .snowflake] ["RENAME"] do
    return [.text (← nameOrList do
      let old ← name
      demandWord "AS"
      return old.render ++ " AS " ++ (← name).render)]
  return chosen ++ others ++ replaced ++ renamed

/-- An expression that is selected, with its alias perhaps. In one dialect a
comparison with a column gives the alias. -/
def selectedExpr (e : Expr) : Parser (List Piece) := do
  match e with
  | .column ⟨n, none⟩ =>
    if Text.lower n = "from" then refuseHere ("Expected an expression, found: " ++ n)
  | .binary (.column n) "=" right =>
    if ← inDialect [.msSql] then return [.part right, .text (" AS " ++ n.render)]
  | _ => pure ()
  return .part e :: aliasText ((← givenName? isColumnAlias).map Name.render)

def selectItem (parts : Parts) : Parser (List Piece) := do
  let lead := if ← acceptOnlyIn [.snowflake] ["CONNECT_BY_ROOT"] then "CONNECT_BY_ROOT " else ""
  match ← wildcardOr parts with
  | .part e => return .text lead :: (← selectedExpr e)
  | star => return star :: (← starOptions parts)

def selectItems (parts : Parts) : Parser (List Piece) := do
  let trailing ← inDialect [.generic, .duckDb, .snowflake]
  let reserved := if ← inDialect [.snowflake] then strictEndOfItem else Keyword.endOfItem
  return Piece.listed (← itemsUpTo trailing reserved (selectItem parts) (← bound))

/-- The columns of a selection, which some dialects may leave out. -/
def selection (parts : Parts) : Parser (List Piece) := do
  if (← inDialect [.generic, .postgreSql]) && (← isWord "FROM") then return []
  return .text " " :: (← selectItems parts)

/-! ## Tuples -/

def tuple (parts : Parts) : Parser (List Expr) :=
  inParens do if ← isSymbol ")" then return [] else items parts.whole

def tupleOrSingle (parts : Parts) : Parser (List Expr) := do
  if ← isSymbol "(" then tuple parts else return [← parts.whole]

def tuplePieces (es : List Expr) : List Piece := .text "(" :: Piece.ofExprs es ++ [.text ")"]

/-! ## Rows that are kept -/

def distinction (parts : Parts) : Parser (List Piece) := do
  let place ← position?
  let all ← acceptWord "ALL"
  unless ← acceptWord "DISTINCT" do return []
  if all then refuse "Cannot specify both ALL and DISTINCT" place
  unless ← acceptWord "ON" do return [.text " DISTINCT"]
  return .text " DISTINCT ON " :: tuplePieces (← tuple parts)

def firstRows (parts : Parts) : Parser (List Piece) := do
  let count ← if ← isSymbol "(" then
      pure [.text "(", .part (← inParens parts.whole), .text ")"]
    else pure [.text (← natural).repr]
  let share ← mark? "PERCENT"
  let ties := if ← acceptWords ["WITH", "TIES"] then " WITH TIES" else ""
  return count ++ [.text (share ++ ties)]

def target : Parser (List Piece) := do
  let temporary := if (← acceptOneOf ["TEMP", "TEMPORARY"]).isSome then "TEMPORARY " else ""
  let unlogged := if ← acceptWord "UNLOGGED" then "UNLOGGED " else ""
  let word := if ← acceptWord "TABLE" then "TABLE " else ""
  return [.text (temporary ++ unlogged ++ word ++ (← dottedName).render)]

def lateralView? (parts : Parts) : Parser (Option (List Piece)) :=
  after? (acceptWords ["LATERAL", "VIEW"]) do
    let outer ← mark? "OUTER"
    let e ← parts.whole
    let view ← dottedName
    let columns ← items <| givenName? fun keyword => do
      return !(["WHERE", "GROUP", "CLUSTER", "HAVING", "LATERAL"].contains keyword)
    let names := listed (columns.filterMap fun c => c.map Name.render)
    let end_ := if columns.all Option.isNone then "" else " AS " ++ names
    return [.text (" LATERAL VIEW" ++ outer ++ " "), .part e, .text (" " ++ view.render ++ end_)]

/-! ## Groups -/

def groupSets (word : String) (p : Parser (List Expr)) : Parser (List Piece) := do
  let sets ← parenthesized p
  let pieces (es : List Expr) : List Piece := match es with
    | [e] => if word = "GROUPING SETS" then tuplePieces [e] else [.part e]
    | es => tuplePieces es
  return .text (word ++ " (") :: Piece.listed (sets.map pieces) ++ [.text ")"]

def group (parts : Parts) : Parser (List Piece) := do
  unless ← inDialect [.generic, .postgreSql, .duckDb, .snowflake] do return ← parts.pieces
  if ← acceptWords ["GROUPING", "SETS"] then return ← groupSets "GROUPING SETS" (tuple parts)
  if ← acceptWord "CUBE" then return ← groupSets "CUBE" (tupleOrSingle parts)
  if ← acceptWord "ROLLUP" then return ← groupSets "ROLLUP" (tupleOrSingle parts)
  if (← isSymbol "(") && (← peekAt 1) == some (.symbol ")") then
    modify (·.drop 2)
    return [.text "()"]
  parts.pieces

def groupModifiers (parts : Parts) : Parser (List Piece) := do
  let totals ← if ← inDialect [.generic, .mySql] then
      many <| after? (acceptWord "WITH") do
        return Piece.text (" WITH " ++ (← demandOneOf ["ROLLUP", "CUBE", "TOTALS"]))
    else pure []
  let sets ← optional <| after? (acceptWords ["GROUPING", "SETS"]) do
    return .text " " :: (← groupSets "GROUPING SETS" (tupleOrSingle parts))
  return totals ++ sets

def groups (parts : Parts) : Parser (List Piece) :=
  clause? ["GROUP", "BY"] do
    let keys ← if ← acceptWord "ALL" then pure [.text "ALL"]
      else pure (Piece.listed (← items (group parts)))
    return keys ++ (← groupModifiers parts)

/-! ## Windows and hierarchies -/

def namedWindow (parts : Parts) : Parser (List Piece) := do
  let n ← name
  demandWord "AS"
  if ← isSymbol "(" then return .text (n.render ++ " AS ") :: (← window parts)
  unless ← inDialect [.generic, .duckDb] do unexpected "("
  return [.text (n.render ++ " AS " ++ (← name).render)]

/-- Windows with names and a condition on their values, in either order; the
windows count as mentioned first. -/
def windows (parts : Parts) : Parser (List Piece) := do
  let named := clause? ["WINDOW"] do return Piece.listed (← items (namedWindow parts))
  let qualified := clause? ["QUALIFY"] parts.pieces
  match ← named with
  | [] => match ← qualified with
    | [] => return []
    | condition => return [.swapped condition (← named)]
  | ws => return ws ++ (← qualified)

def hierarchy (parts : Parts) : Parser (List Piece) := do
  let links : Parser (List Piece) := within .hierarchy parts.list
  let (start, links) ← if ← acceptWords ["CONNECT", "BY"] then do
      let links ← links
      demandWords ["START", "WITH"]
      pure (← parts.pieces, links)
    else do
      demandWords ["START", "WITH"]
      let start ← parts.pieces
      demandWords ["CONNECT", "BY"]
      pure (start, ← links)
  return .text " START WITH " :: start ++ .text " CONNECT BY " :: links

/-! ## Selections -/

def selectClauses (parts : Parts) : Parser (List Piece) := do
  let views ← many (lateralView? parts)
  let early ← clauseIn? [.generic] ["PREWHERE"] parts.pieces
  let condition ← clause? ["WHERE"] parts.pieces
  let groups ← groups parts
  let cluster ← clause? ["CLUSTER", "BY"] parts.list
  let distribute ← clause? ["DISTRIBUTE", "BY"] parts.list
  let sort ← clause? ["SORT", "BY"] (sortKeys parts)
  let having ← clause? ["HAVING"] parts.pieces
  let windows ← windows parts
  let links ← if (← inDialect [.generic, .msSql, .snowflake]) &&
      (← isOneOf ["START", "CONNECT"]) then hierarchy parts else pure []
  return views.flatten ++ early ++ condition ++ groups ++ cluster ++ distribute ++ sort ++ having ++
    windows ++ links

/-- A selection after its word; `from_` are the tables that stand before it. -/
def select (parts : Parts) (from_ : Option (List Piece)) : Parser (List Piece) := do
  let rows ← distinction parts
  let top ← clause? ["TOP"] (firstRows parts)
  let columns ← selection parts
  let into ← clause? ["INTO"] target
  let start := .text "SELECT" :: rows ++ top ++ columns ++ into
  match from_ with
  | none =>
    let tables ← clause? ["FROM"] (sources parts)
    return start ++ tables ++ (← selectClauses parts)
  | some tables => return .swapped tables (.text " " :: start) :: (← selectClauses parts)

/-- A selection that starts with its tables; without columns it has no other
clauses. -/
def tablesFirst (parts : Parts) : Parser (List Piece) := do
  let tables := .text "FROM " :: (← sources parts)
  if ← acceptWord "SELECT" then select parts (some tables) else return tables

/-! ## Bodies of queries -/

/-- A whole table by its name, of which always three tokens are read. -/
def wholeTable : Parser (List Piece) := do
  let ts ← get
  modify (·.drop 3)
  let word (wanted : String) (t : Option Located) : Parser String := match t with
    | some ⟨.word text _, _⟩ => return text
    | found => throw (.unexpected wanted found)
  match ts[1]? with
  | some ⟨.symbol ".", _⟩ =>
    let outer ← word "Schema name" ts[0]?
    return [.text ("TABLE " ++ outer ++ "." ++ (← word "Table name" ts[2]?))]
  | _ => return [.text ("TABLE " ++ (← word "Table name" ts[0]?))]

/-- A query without operators between rows. -/
def bodyTerm (parts : Parts) : Parser (List Piece) := do
  if ← acceptWord "SELECT" then return ← select parts none
  if ← acceptOnlyIn [.generic, .duckDb] ["FROM"] then return ← tablesFirst parts
  if ← isSymbol "(" then return ← parts.subquery
  if ← acceptWord "VALUES" then return ← valueRows parts
  if ← acceptWord "TABLE" then return ← wholeTable
  unexpected "SELECT, VALUES, or a subquery in the query body"

def setQuantity : Parser String := do
  let quantity := ((← acceptOneOf ["ALL", "DISTINCT"]).map (" " ++ ·)).getD ""
  if ← acceptWords ["BY", "NAME"] then return quantity ++ " BY NAME" else return quantity

def setOperator? : Parser (Option String) := do
  match ← acceptOneOf ["UNION", "EXCEPT", "INTERSECT", "MINUS"] with
  | some word => return some (" " ++ word ++ (← setQuantity) ++ " ")
  | none => return none

def body (parts : Parts) : Parser (List Piece) := do
  let first ← bodyTerm parts
  let further ← many do
    match ← setOperator? with
    | none => return none
    | some word => return some (.text word :: (← bodyTerm parts))
  return first ++ further.flatten

end NormalForms.Sql.Parser
