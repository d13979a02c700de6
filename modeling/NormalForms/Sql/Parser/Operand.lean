import NormalForms.Sql.Parser.Call

/-!
# Reading operands

What an operator may stand beside: values, columns, calls, parentheses, lists,
and the forms that start with a word of their own. A word whose form does not
fit what follows is read as a name after all, unless it is reserved.
-/

namespace NormalForms.Sql.Parser

/-! ## Calls with words in them -/

def branch (parts : Parts) : Parser (List Piece) := do
  let condition ← parts.whole
  demandWord "THEN"
  return [.text " WHEN ", .part condition, .text " THEN ", .part (← parts.whole)]

def choice (parts : Parts) : Parser Expr := do
  let operand ← if ← isWord "WHEN" then pure [] else pure [.text " ", .part (← parts.whole)]
  demandWord "WHEN"
  let first ← branch parts
  let further ← many (after? (acceptWord "WHEN") (branch parts))
  let otherwise ← optional <| after? (acceptWord "ELSE") do
    return [.text " ELSE ", .part (← parts.whole)]
  demandWord "END"
  return .phrase (.text "CASE" :: operand ++ first ++ further.flatten ++ otherwise ++
    [.text " END"])

def castFormat : Parser String := do
  if ← acceptWord "FORMAT" then
    let format := " FORMAT " ++ (← value).render
    if ← acceptWords ["AT", "TIME", "ZONE"] then
      return format ++ " AT TIME ZONE " ++ (← value).render
    return format
  return ""

def castOf (parts : Parts) (keyword : String) : Parser Expr := inParens do
  let operand ← parts.whole
  demandWord "AS"
  let type ← dataType
  return .cast (keyword ++ "(") operand (" AS " ++ type.render ++ (← castFormat) ++ ")")

def conversion (parts : Parts) (keyword : String) : Parser Expr := inParens do
  let lead := Piece.text (keyword ++ "(")
  if ← inDialect [.msSql] then
    let type ← dataType
    demand ","
    let e ← parts.whole
    let styles ← optional <| after? (accept ",") do return .text ", " :: (← parts.list)
    return .phrase (lead :: .text (type.render ++ ", ") :: .part e :: styles ++ [.text ")"])
  let e ← parts.whole
  if ← acceptWord "USING" then
    return .phrase [lead, e, .text (" USING " ++ (← dottedName).render ++ ")")]
  demand ","
  let type ← dataType
  let charset ← after? (acceptWords ["CHARACTER", "SET"]) dottedName
  let charset := (charset.map fun n => " CHARACTER SET " ++ n.render).getD ""
  return .phrase [lead, e, .text (", " ++ type.render ++ charset ++ ")")]

def extraction (parts : Parts) : Parser Expr := inParens do
  let field ← dateField
  if ← acceptWord "FROM" then
    return .phrase [.text ("EXTRACT(" ++ field ++ " FROM "), ← parts.whole, ")"]
  if ← acceptIf (← inDialect [.generic, .snowflake]) (accept ",") then
    return .phrase [.text ("EXTRACT(" ++ field ++ ", "), ← parts.whole, ")"]
  refuse "Expected 'FROM' or ','" none

def rounding (parts : Parts) (keyword : String) : Parser Expr := inParens do
  let lead := Piece.text (keyword ++ "(")
  let e ← parts.whole
  if ← acceptWord "TO" then return .phrase [lead, e, .text (" TO " ++ (← dateField) ++ ")")]
  if ← accept "," then
    match ← value with
    | .number digits => return .phrase [lead, e, .text (", " ++ digits ++ ")")]
    | _ => refuse "Scale field can only be of number type" none
  return .phrase [lead, e, ")"]

def substring (parts : Parts) (keyword : String) : Parser Expr := inParens do
  let e ← parts.whole
  let commas ← accept ","
  let starts ← if commas then pure true else acceptWord "FROM"
  let start ← optional <| after? (return starts) do
    return [if commas then ", " else " FROM ", .part (← parts.whole)]
  let counted ← if ← acceptWord "FOR" then pure true else accept ","
  let count ← optional <| after? (return counted) do
    return [if commas then ", " else " FOR ", .part (← parts.whole)]
  return .phrase (.text (keyword ++ "(") :: .part e :: start ++ count ++ [.text ")"])

def overlay (parts : Parts) : Parser Expr := inParens do
  let e ← parts.whole
  demandWord "PLACING"
  let what ← parts.whole
  demandWord "FROM"
  let start ← parts.whole
  let count ← optional <| after? (acceptWord "FOR") do
    return [.text " FOR ", .part (← parts.whole)]
  return .phrase (.text "OVERLAY(" :: .part e :: .text " PLACING " :: .part what ::
    .text " FROM " :: .part start :: count ++ [.text ")"])

def trimming (parts : Parts) : Parser Expr := inParens do
  let side := ((← acceptOneOf ["BOTH", "LEADING", "TRAILING"]).map (· ++ " ")).getD ""
  let e ← parts.whole
  if ← acceptWord "FROM" then
    let operand ← parts.whole
    return .phrase [.text ("TRIM(" ++ side), .swapped [.part e] [.text " FROM ", .part operand],
      .text ")"]
  if (← accept ",") && (← inDialect [.generic, .snowflake, .duckDb]) then
    return .phrase (.text "TRIM(" :: .part e :: .text ", " :: (← parts.list) ++ [.text ")"])
  return .phrase [.text ("TRIM(" ++ side), e, ")"]

/-- The place of a text in another, or a call of a function of the same name. -/
def placeOf (parts : Parts) (function : Name) : Parser Expr := do
  let placed ← attempt <| inParens do
    let e ← parts.tighterThan .between
    demandWord "IN"
    return .phrase [.text "POSITION(", .part e, .text " IN ", .part (← parts.whole), .text ")"]
  match placed with
  | some e => return e
  | none => callOf parts ⟨[function]⟩

def existence (parts : Parts) (lead : String) : Parser Expr := inParens do
  return .phrase (.text (lead ++ "EXISTS (") :: (← parts.query) ++ [.text ")"])

def negation (parts : Parts) : Parser Expr := do
  if ← acceptWord "EXISTS" then existence parts "NOT "
  else return .unary "NOT " (← parts.tighterThan .not)

def fullTextSearch : Parser Expr := do
  let columns ← parenthesized dottedName
  demandWord "AGAINST"
  let sought ← inParens do
    let v ← value
    let mode ← acceptFirst [
      ["IN", "NATURAL", "LANGUAGE", "MODE", "WITH", "QUERY", "EXPANSION"],
      ["IN", "NATURAL", "LANGUAGE", "MODE"], ["IN", "BOOLEAN", "MODE"],
      ["WITH", "QUERY", "EXPANSION"]]
    return String.intercalate " " (v.render :: mode.getD [])
  return .phrase [.text ("MATCH (" ++ listed (columns.map DottedName.render) ++ ") AGAINST (" ++
    sought ++ ")")]

/-! ## Lists and records -/

def arrayOf (parts : Parts) (lead : String) : Parser Expr := do
  let es ← itemsBefore "]" parts.whole
  demand "]"
  return .phrase (.text (lead ++ "[") :: Piece.ofExprs es ++ [.text "]"])

def entries (parts : Parts) (lead : String) (key : Parser Piece) : Parser Expr := do
  demand "\x7b"
  let es ← itemsBefore "\x7d" do
    let k ← key
    demand ":"
    return [k, .text ": ", .part (← parts.whole)]
  demand "\x7d"
  return .phrase (.text (lead ++ "\x7b") :: Piece.listed es ++ [.text "\x7d"])

/-- A value of a record, with a name where `named` allows one. -/
def recordValue (parts : Parts) (named : Bool) : Parser (List Piece) := do
  let e ← parts.whole
  unless ← isWord "AS" do return [.part e]
  unless named do refuseHere "Typed syntax does not allow AS"
  skip
  return [.part e, .text (" AS " ++ (← name).render)]

def recordOf (parts : Parts) : Parser Expr := do
  let (type, pending) ← record (typeWithin (← bound))
  if pending then refuseHere "unmatched > in STRUCT literal"
  let values ← parenthesized (recordValue parts (type == .plain "STRUCT"))
  return .phrase (.text (type.render ++ "(") :: Piece.listed values ++ [.text ")"])

/-- A call, a day or a time between braces, after a word that says which. -/
def bracedForm (parts : Parts) : Parser Expr := do
  let open_ := Piece.text "\x7b"
  let close := Piece.text "\x7d"
  match ← peek with
  | some (.word "d" none) => skip; return .phrase [open_, .text ("d " ++ (← value).render), close]
  | some (.word "t" none) => skip; return .phrase [open_, .text ("t " ++ (← value).render), close]
  | some (.word "ts" none) => skip; return .phrase [open_, .text ("ts " ++ (← value).render), close]
  | _ =>
    demandWord "FN"
    let call ← callOf parts (← dottedName)
    return .phrase [open_, .text "fn ", .part call, close]

def braced (parts : Parts) : Parser Expr := do
  let form ← attempt do
    skip
    bracedForm parts
  match form with
  | some e =>
    demand "\x7d"
    return e
  | none =>
    unless ← inDialect [.generic, .duckDb, .snowflake] do unexpected "an expression"
    entries parts "" (return .text (← name).render)

/-! ## Words -/

def clockWords : List String :=
  ["CURRENT_TIMESTAMP", "CURRENT_DATE", "CURRENT_TIME", "LOCALTIME", "LOCALTIMESTAMP"]

/-- The words for the current user and catalog, which are called without
parentheses in some dialects. -/
def sessionWords : List String := ["CURRENT_CATALOG", "CURRENT_USER", "SESSION_USER", "USER"]

def shapes : List String := ["POINT", "LINE", "LSEG", "BOX", "PATH", "POLYGON", "CIRCLE"]

/-- The form that a word starts because of its meaning, if it has one in these
surroundings and before the token `next`; the parser reads on after the word. -/
def special? (parts : Parts) (operand : Parser Expr) (d : Dialect) (surroundings : Surroundings)
    (text : String) (next : Option Token) : Option (Parser Expr) :=
  let keyword := Keyword.ofText text
  let function : DottedName := ⟨[{ value := text }]⟩
  match keyword with
  | "TRUE" | "FALSE" =>
    if d = .msSql then none else some (return .literal (.bool (keyword == "TRUE")))
  | "NULL" => some (return .literal .null)
  | "CASE" => some (choice parts)
  | "CONVERT" => some (conversion parts keyword)
  | "TRY_CONVERT" =>
    if d = .generic ∨ d = .msSql then some (conversion parts keyword) else none
  | "CAST" | "TRY_CAST" | "SAFE_CAST" => some (castOf parts keyword)
  | "EXISTS" => some (existence parts "")
  | "EXTRACT" => some (extraction parts)
  | "CEIL" | "FLOOR" => some (rounding parts keyword)
  | "POSITION" =>
    if next = some (.symbol "(") then some (placeOf parts { value := text }) else none
  | "SUBSTR" | "SUBSTRING" => some (substring parts keyword)
  | "OVERLAY" => some (overlay parts)
  | "TRIM" => some (trimming parts)
  | "INTERVAL" => some (span parts operand)
  | "ARRAY" =>
    if next = some (.symbol "[") then some (do skip; arrayOf parts "ARRAY")
    else if next = some (.symbol "(") then
      some (inParens do return .call function (.text "(" :: (← parts.query) ++ [.text ")"]))
    else none
  | "NOT" => some (negation parts)
  | "MATCH" => if d = .generic ∨ d = .mySql then some fullTextSearch else none
  | "STRUCT" => if d = .generic then some (recordOf parts) else none
  | "PRIOR" =>
    if surroundings = .hierarchy then
      some do return .unary "PRIOR " (← parts.tighterThan .additive)
    else none
  | "MAP" =>
    if next = some (.symbol "\x7b") ∧ (d = .generic ∨ d = .duckDb) then
      some (entries parts "MAP " (return .part (← parts.whole)))
    else none
  | _ =>
    if clockWords.contains keyword then
      some do
        if ← accept "(" then return .call function (← arguments parts) else return .call function []
    else if sessionWords.contains keyword ∧ (d = .generic ∨ d = .postgreSql) then
      some (return .call function [])
    else if shapes.contains keyword ∧ d = .postgreSql then
      some do return .phrase [.text (Text.lower keyword ++ " " ++ (← value).render)]
    else none

/-- Is a word reserved for the form that it starts? -/
def isReserved (d : Dialect) (text : String) : Bool :=
  let keyword := Keyword.ofText text
  Keyword.startOfForm.contains keyword && !(d == .snowflake && keyword == "INTERVAL")

def isOuterMark : Parser Bool := do
  unless ← inDialect [.msSql, .snowflake] do return false
  return (((← get).take 3).map Located.token) == [.symbol "(", .symbol "+", .symbol ")"]

/-- A column, a call of the function of that name, or what else a name starts. -/
def named (parts : Parts) : Parser Expr := do
  let n ← name
  if ← isOuterMark then return .column n
  match ← peek with
  | some (.symbol "(") => callOf parts ⟨[n]⟩
  | some (.symbol "->") =>
    unless ← inDialect [.duckDb] do return .column n
    skip
    return .phrase [.text (n.render ++ " -> "), ← parts.whole]
  | some (.string quoting text) =>
    if [Quoting.single, .double, .hex].contains quoting && Text.startsWith n.value "_" then
      skip
      return .phrase [.text (n.render ++ " " ++ (Literal.string quoting text).render)]
    return .column n
  | _ => return .column n

def ofWord (parts : Parts) (operand : Parser Expr) (text : String) : Parser Expr :=
  fun scope ts =>
    match special? parts operand scope.dialect scope.surroundings text
        (ts[1]?.map Located.token) with
    | none => (named parts >>= collated) scope ts
    | some form =>
      match form scope (ts.drop 1) with
      | .ok (e, rest) => collated e scope rest
      | .error e =>
        if isReserved scope.dialect text then .error e
        else match named parts scope ts with
          | .ok read => .ok read
          | .error _ => .error e

/-! ## All operands -/

def typed (parts : Parts) (operand : Parser Expr) : Parser Expr := do
  let keyword := ((← peek).bind Token.capitals?).getD ""
  let type ← dataType
  match type with
  | .custom _ _ => unexpected "an expression"
  | _ =>
    if keyword = "INTERVAL" then span parts operand
    else return .phrase [.text (type.render ++ " " ++ (← value).render)]

/-- The symbols of one operand, with the space after them, in a dialect. -/
def signOf? (d : Dialect) (s : String) : Option (String × Level) :=
  if s = "+" ∨ s = "-" then some (s, .multiplicative)
  else if d = .postgreSql then
    if ["~", "!!", "|/", "||/", "@"].contains s then some (s, .additive)
    else if ["#", "@-@", "@@", "?-", "?|"].contains s then some (s ++ " ", .additive)
    else none
  else none

def lambda (parts : Parts) : Parser Expr := do
  let parameters ← items name
  demand ")"
  demand "->"
  let lead := "(" ++ listed (parameters.map Name.render) ++ ") -> "
  return .phrase [.text lead, .part (← parts.whole)]

def parenthesis (parts : Parts) : Parser Expr := do
  if ← startsQuery then
    let query ← parts.query
    demand ")"
    return ← collated (.phrase (.text "(" :: query ++ [.text ")"]))
  if ← inDialect [.duckDb] then
    if let some e ← attempt (lambda parts) then return e
  let es ← items parts.whole
  demand ")"
  collated <| match es with
    | [e] => .nested e
    | es => .phrase (.text "(" :: Piece.ofExprs es ++ [.text ")"])

/-- An operand by its first token; `operand` reads one within a span of time. -/
def bare (parts : Parts) (operand : Parser Expr) : Parser Expr := do
  let d := (← read).dialect
  match ← peek with
  | some (.word text none) => ofWord parts operand text
  | some (.word _ (some _)) => named parts >>= collated
  | some (.number _ _) | some (.string _ _) | some (.placeholder _) | some (.symbol ":") =>
    collated (.literal (← value))
  | some (.symbol "(") => skip; parenthesis parts
  | some (.symbol "[") => do
    skip
    collated (← arrayOf parts "")
  | some (.symbol "\x7b") => do collated (← braced parts)
  | some (.symbol s) =>
    match signOf? d s with
    | some (sign, level) =>
      skip
      collated (.unary sign (← parts.tighterThan level))
    | none => if s = "@" then collated (.literal (← value)) else unexpected "an expression"
  | _ => unexpected "an expression"

/-- An operand in which spans of time nest at most `n` deep. -/
def operandWithin (parts : Parts) : Nat → Parser Expr
  | 0 => throw .tooDeep
  | n + 1 => do
    match ← attempt (typed parts (operandWithin parts n)) with
    | some e => return e
    | none => bare parts (operandWithin parts n)

def operand (parts : Parts) : Parser Expr := do operandWithin parts (← bound)

end NormalForms.Sql.Parser
