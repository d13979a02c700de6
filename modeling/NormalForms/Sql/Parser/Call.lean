import NormalForms.Sql.Parser.Span

/-!
# Reading calls

What may stand in the parentheses after the name of a function, and after them.
-/

namespace NormalForms.Sql.Parser

/-! ## Wildcards -/

/-- The names before a star, each after a period; nothing if no star follows. -/
def namesBeforeStar : Nat → Parser (Option (List Name))
  | 0 => return none
  | n + 1 => do
    unless ← accept "." do return none
    match ← peek with
    | some (.word _ _) | some (.string .single _) =>
      let m ← name
      return (← namesBeforeStar n).map (m :: ·)
    | some (.symbol "*") => skip; return some []
    | _ => unexpected "an identifier or a '*' after '.'"

/-- A star for all columns, or for all columns of a table. -/
def wildcard? : Parser (Option String) := do
  let start ← get
  match ← peek, ← peekAt 1 with
  | some (.symbol "*"), _ => skip; return some "*"
  | some (.word _ _), some (.symbol ".") | some (.string .single _), some (.symbol ".") =>
    let first ← name
    match ← namesBeforeStar start.length with
    | some names => return some ((DottedName.mk (first :: names)).render ++ ".*")
    | none => set start; return none
  | _, _ => return none

def wildcardOr (parts : Parts) : Parser Piece := do
  match ← wildcard? with
  | some text => return .text text
  | none => return .part (← parts.whole)

/-! ## Arguments -/

def argumentMark : Parser String := do
  if ← acceptWord "VALUE" then return "VALUE"
  let d := (← read).dialect
  match d, ← peek with
  | .msSql, some (.symbol "=>") => unexpected "argument operator"
  | _, some (.symbol "=>") => skip; return "=>"
  | .duckDb, some (.symbol "=") => skip; return "="
  | .generic, some (.symbol ":=") | .duckDb, some (.symbol ":=") => skip; return ":="
  | .postgreSql, some (.symbol ":") | .msSql, some (.symbol ":") => skip; return ":"
  | _, _ => unexpected "argument operator"

def namedValue (parts : Parts) : Parser (List Piece) := do
  let mark ← argumentMark
  return [.text (" " ++ mark ++ " "), ← wildcardOr parts]

/-- An argument with its name perhaps. In some dialects any expression may be
the name; in the others a name mentions no column. -/
def functionArgument (parts : Parts) : Parser (List Piece) := do
  if ← inDialect [.postgreSql, .msSql] then
    match ← wildcardOr parts with
    | .part e => return .part e :: (← optional (attempt (namedValue parts)))
    | star => return [star]
  let named ← attempt do
    let n ← name
    return .text n.render :: (← namedValue parts)
  match named with
  | some pieces => return pieces
  | none => return [← wildcardOr parts]

/-! ## Sorting -/

def sortDirection : Parser String := do
  let direction ← acceptOneOf ["ASC", "DESC"]
  let text := (direction.map (" " ++ ·)).getD ""
  if ← acceptWords ["NULLS", "FIRST"] then return text ++ " NULLS FIRST"
  if ← acceptWords ["NULLS", "LAST"] then return text ++ " NULLS LAST"
  return text

def gapFilling (parts : Parts) : Parser (List Piece) := do
  unless ← acceptOnlyIn [.generic] ["WITH", "FILL"] do return []
  let low ← clause? ["FROM"] parts.pieces
  let high ← clause? ["TO"] parts.pieces
  return .text " WITH FILL" :: low ++ high ++ (← clause? ["STEP"] parts.pieces)

def sortOrder (parts : Parts) : Parser (List Piece) := do
  let direction ← sortDirection
  return .text direction :: (← gapFilling parts)

def sortKey (parts : Parts) : Parser (List Piece) := do
  let e ← parts.whole
  return .part e :: (← sortOrder parts)

def sortKeys (parts : Parts) : Parser (List Piece) := do
  return Piece.listed (← items (sortKey parts))

/-! ## Clauses within calls -/

def nullTreatment? : Parser (Option String) := do
  match ← acceptOneOf ["RESPECT", "IGNORE"] with
  | some keyword =>
    demandWord "NULLS"
    return some (keyword ++ " NULLS")
  | none => return none

def jsonNulls? : Parser (Option (List Piece)) := do
  if ← acceptWords ["ABSENT", "ON", "NULL"] then return some ["ABSENT ON NULL"]
  if ← acceptWords ["NULL", "ON", "NULL"] then return some ["NULL ON NULL"]
  return none

def jsonType? : Parser (Option (List Piece)) :=
  after? (acceptWord "RETURNING") do return [.text ("RETURNING " ++ (← dataType).render)]

/-- What stands for the rest of a list that is too long, if anything is said of
that before its length. -/
def filler (parts : Parts) : Parser (List Piece) := do
  if ← isOneOf ["WITH", "WITHOUT"] then return []
  match ← peek with
  | some (.string quoting _) =>
    if [.single, .escaped, .unicode, .national, .hex].contains quoting then
      return [.text " ", .part (← parts.whole)]
    unexpected "either filler, WITH, or WITHOUT in LISTAGG"
  | _ => unexpected "either filler, WITH, or WITHOUT in LISTAGG"

def overflow? (parts : Parts) : Parser (Option (List Piece)) :=
  after? (acceptWords ["ON", "OVERFLOW"]) do
    if ← acceptWord "ERROR" then return ["ON OVERFLOW ERROR"]
    demandWord "TRUNCATE"
    let sign ← filler parts
    let counted ← orElse (acceptOneOf ["WITH", "WITHOUT"]) "either WITH or WITHOUT in LISTAGG"
    demandWord "COUNT"
    return .text "ON OVERFLOW TRUNCATE" :: sign ++ [.text (" " ++ counted ++ " COUNT")]

/-- The clauses after the arguments of a function, in the order in which they may
stand, and whether missing values are treated by one of them. -/
def argumentClauses (parts : Parts) : Parser (List (List Piece) × Bool) := do
  let nulls ← if ← inDialect [.generic, .snowflake] then nullTreatment? else pure none
  let order ← after? (acceptWords ["ORDER", "BY"]) do
    return .text "ORDER BY " :: (← sortKeys parts)
  let limit ← after? (acceptWord "LIMIT") do return [.text "LIMIT ", .part (← parts.whole)]
  let extreme ← after? (acceptOnlyIn [.generic] ["HAVING"]) do
    let side ← demandOneOf ["MIN", "MAX"]
    return [.text ("HAVING " ++ side ++ " "), .part (← parts.whole)]
  let separator ← after? (acceptOnlyIn [.generic, .mySql] ["SEPARATOR"]) do
    return [.text ("SEPARATOR " ++ (← value).render)]
  let clauses := [nulls.map ([.text ·]), order, limit, extreme, separator, ← overflow? parts,
    ← jsonNulls?, ← jsonType?]
  return (clauses.filterMap id, nulls.isSome)

def duplicates : Parser String := do
  let place ← position?
  let all ← acceptWord "ALL"
  let distinct ← acceptWord "DISTINCT"
  match all, distinct with
  | true, true => refuse "Cannot specify both ALL and DISTINCT" place
  | true, false => return "ALL "
  | false, true => return "DISTINCT "
  | false, false => return ""

/-- The arguments of a function after the opening parenthesis, and whether
missing values are treated by a clause among them. -/
def argumentsWithNulls (parts : Parts) : Parser (List Piece × Bool) := do
  let early := [← jsonNulls?, ← jsonType?].filterMap id
  if ← accept ")" then return (.text "(" :: Piece.separated " " early ++ [.text ")"], false)
  let lead ← duplicates
  let args ← items (functionArgument parts)
  let (late, nulls) ← argumentClauses parts
  demand ")"
  return (.text ("(" ++ lead) :: Piece.listed args ++
    (early ++ late).flatMap (.text " " :: ·) ++ [.text ")"], nulls)

def arguments (parts : Parts) : Parser (List Piece) := return (← argumentsWithNulls parts).1

/-! ## Windows -/

/-- An end of the rows around the current one; a text says how long ago. -/
def frameBound (parts : Parts) : Parser (List Piece) := do
  if ← acceptWords ["CURRENT", "ROW"] then return ["CURRENT ROW"]
  let distance : Piece ← do
    if ← acceptWord "UNBOUNDED" then pure "UNBOUNDED"
    else match ← peek with
      | some (.string .single _) =>
        let e ← span parts do collated (.literal (← value))
        pure (.part e)
      | _ => pure (.part (← parts.whole))
  match ← acceptOneOf ["PRECEDING", "FOLLOWING"] with
  | some side => return [distance, .text (" " ++ side)]
  | none => unexpected "PRECEDING or FOLLOWING"

def frame (parts : Parts) : Parser (List Piece) := do
  let units ← orElse (acceptOneOf ["ROWS", "RANGE", "GROUPS"]) "ROWS, RANGE, GROUPS"
  if ← acceptWord "BETWEEN" then
    let low ← frameBound parts
    demandWord "AND"
    let high ← frameBound parts
    return .text (units ++ " BETWEEN ") :: low ++ .text " AND " :: high
  return .text (units ++ " ") :: (← frameBound parts)

def window (parts : Parts) : Parser (List Piece) := inParens do
  let base ← match ← peek with
    | some (.word text quote) =>
      if quote.isNone && Keyword.isKnown (Keyword.ofText text) then pure none
      else pure (some [Piece.text (← name).render])
    | _ => pure none
  let partition ← after? (acceptWords ["PARTITION", "BY"]) do
    return .text "PARTITION BY " :: (← parts.list)
  let order ← after? (acceptWords ["ORDER", "BY"]) do
    return .text "ORDER BY " :: (← sortKeys parts)
  let rows ← if ← isSymbol ")" then pure none else some <$> frame parts
  let clauses := [base, partition, order, rows].filterMap id
  return .text "(" :: Piece.separated " " clauses ++ [.text ")"]

/-! ## Calls -/

/-- What may follow the arguments of a function; `nulls` says whether missing
values have been treated among them. -/
def callSuffix (parts : Parts) (nulls : Bool) : Parser (List Piece) := do
  let group ← optional <| after? (acceptWords ["WITHIN", "GROUP"]) <| inParens do
    demandWords ["ORDER", "BY"]
    return .text " WITHIN GROUP (ORDER BY " :: (← sortKeys parts) ++ [.text ")"]
  let filter ← optional <| after?
    (do
      unless ← acceptOnlyIn [.generic, .postgreSql, .sqlite, .duckDb] ["FILTER"] do return false
      unless ← accept "(" do return false
      acceptWord "WHERE")
    do
      let condition ← parts.whole
      demand ")"
      return [.text " FILTER (WHERE ", .part condition, .text ")"]
  let treatment ← if nulls then pure none else nullTreatment?
  let rows ← optional <| after? (acceptWord "OVER") do
    if ← isSymbol "(" then return .text " OVER " :: (← window parts)
    return [.text (" OVER " ++ (← name).render)]
  let further := filter ++ (treatment.map fun text => [Piece.text (" " ++ text)]).getD [] ++ rows
  return if group.isEmpty then further else [.swapped group further]

def callOf (parts : Parts) (function : DottedName) : Parser Expr := do
  demand "("
  if (← inDialect [.snowflake]) && (← startsQuery) then
    let query ← parts.query
    demand ")"
    return .call function (.text "(" :: query ++ [.text ")"])
  let (first, nulls) ← argumentsWithNulls parts
  if ← acceptIf (← inDialect [.generic]) (accept "(") then
    let (second, nulls) ← argumentsWithNulls parts
    return .call function (first ++ second ++ (← callSuffix parts nulls))
  return .call function (first ++ (← callSuffix parts nulls))

end NormalForms.Sql.Parser
