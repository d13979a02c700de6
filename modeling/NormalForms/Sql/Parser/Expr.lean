import NormalForms.Sql.Parser.Path
import NormalForms.Sql.Parser.Query

/-!
# Reading expressions

An expression is an operand with its path, and then operators as long as they
bind tighter than a bound. `parts n` are the parsers of expressions and queries
that nest at most `n` deep: those of one level take those of the next as an
argument.
-/

namespace NormalForms.Sql.Parser

/-! ## Operators that are words -/

def normality (e : Expr) : Parser Expr := do
  let negated := if ← acceptWord "NOT" then "NOT " else ""
  let form := ((← acceptOneOf ["NFC", "NFD", "NFKC", "NFKD"]).map (· ++ " ")).getD ""
  unless ← acceptWord "NORMALIZED" do
    unexpected "[NOT] NULL | TRUE | FALSE | DISTINCT | [form] NORMALIZED FROM after IS"
  return .phrase [e, .text (" IS " ++ negated ++ form ++ "NORMALIZED")]

def isTest (parts : Parts) (e : Expr) : Parser Expr := do
  if let some words ← acceptFirst [["NULL"], ["NOT", "NULL"], ["TRUE"], ["NOT", "TRUE"], ["FALSE"],
      ["NOT", "FALSE"], ["UNKNOWN"], ["NOT", "UNKNOWN"]] then
    return .phrase [e, .text (" IS " ++ String.intercalate " " words)]
  if ← acceptWords ["DISTINCT", "FROM"] then
    return .phrase [e, " IS DISTINCT FROM ", ← parts.whole]
  if ← acceptWords ["NOT", "DISTINCT", "FROM"] then
    return .phrase [e, " IS NOT DISTINCT FROM ", ← parts.whole]
  normality e

def membership (parts : Parts) : Parser (List Piece) := do
  if ← acceptWord "UNNEST" then
    return [.text "UNNEST(", .part (← inParens parts.whole), .text ")"]
  demand "("
  let inner ← match ← attempt parts.query with
    | some query => pure query
    | none =>
      if ← inDialect [.sqlite] then pure (Piece.ofExprs (← itemsBefore ")" parts.whole))
      else parts.list
  demand ")"
  return .text "(" :: inner ++ [.text ")"]

def escapeText : Parser String := do
  if ← acceptWord "ESCAPE" then return " ESCAPE " ++ (← value).render else return ""

def pattern (parts : Parts) : Parser (List Piece) := do
  let any := if ← acceptWord "ANY" then "ANY " else ""
  let p ← parts.tighterThan .like
  return [.text any, .part p, .text (← escapeText)]

def comparison (parts : Parts) (e : Expr) : Parser Expr := do
  let not ← acceptWord "NOT"
  let lead := Piece.text (if not then " NOT " else " ")
  match ← acceptOneOf ["REGEXP", "RLIKE"] with
  | some word =>
    if word = "REGEXP" then discard (acceptWord "RLIKE")
    let _ ← acceptIf (!(← inColumn)) (acceptWord "NULL")
    return .phrase [e, lead, .text (word ++ " "), ← parts.tighterThan .like]
  | none =>
    if ← acceptIf (not && !(← inColumn)) (acceptWord "NULL") then
      return .phrase [e, " IS NOT NULL"]
    if ← acceptWord "IN" then
      return .phrase (.part e :: lead :: .text "IN " :: (← membership parts))
    if ← acceptWord "BETWEEN" then
      let low ← parts.tighterThan .between
      demandWord "AND"
      return .phrase [e, lead, "BETWEEN ", low, " AND ", ← parts.tighterThan .between]
    if let some word ← acceptOneOf ["LIKE", "ILIKE"] then
      return .phrase (.part e :: lead :: .text (word ++ " ") :: (← pattern parts))
    if ← acceptWords ["SIMILAR", "TO"] then
      let p ← parts.tighterThan .like
      return .phrase [e, lead, "SIMILAR TO ", p, .text (← escapeText)]
    unexpected "IN or BETWEEN after NOT"

/-! ## Operators between two operands -/

def operatorName : Parser String := do
  let part : Parser String := return SyntaxError.shown (← anyToken)
  let parts ← inParens do
    let first ← part
    return first :: (← many (after? (accept ".") part))
  return "OPERATOR(" ++ String.intercalate "." parts ++ ")"

def dialectSymbols : List (List String × List Dialect) := [
  (["<<", ">>"], [.generic, .postgreSql, .duckDb]), (["#"], [.postgreSql]),
  (["&&"], [.generic, .postgreSql]), (["^@"], [.generic, .postgreSql]),
  (["@"], [.postgreSql])]

def symbolOperator? (d : Dialect) (s : String) : Option String :=
  match dialectSymbols.find? fun p => p.1.contains s with
  | some (_, dialects) =>
    if dialects.contains d then some s else none
  | none =>
    if s = "!" ∨ s = "[" ∨ s = ":" ∨ s = "::" ∨ (symbolLevel? d s).isNone then none
    else some (if s = "==" then "=" else s)

def binaryOperator? : Parser (Option String) := do
  let d := (← read).dialect
  match ← peek with
  | some (.symbol s) =>
    match symbolOperator? d s with
    | some op => skip; return some op
    | none => return none
  | some (.operator s) => skip; return some s
  | _ =>
    if ← acceptOnlyIn [.generic, .postgreSql] ["OPERATOR"] then
      return some (← operatorName)
    acceptOneOf ["AND", "OR", "XOR", "OVERLAPS"]

def comparisons : List String :=
  ["=", "<>", "<", "<=", ">", ">=", "~", "~*", "!~", "!~*", "~~", "~~*", "!~~", "!~~*"]

/-- What a comparison with several values says about any other operator. -/
def noComparison (op : String) : String :=
  "Expected one of [=, >, <, =>, =<, !=, ~, ~*, !~, !~*, ~~, ~~*, !~~, !~~*] " ++
    "as comparison operator, found: " ++ op

/-- An operand in parentheses, which a query has already. -/
def enclosed : Expr → List Piece
  | .phrase (.text "(" :: ps) => .text "(" :: ps
  | e => [.text "(", .part e, .text ")"]

/-- A comparison with any or all of several values, after those words. What
starts as a query may go on as an operand. -/
def quantified (parts : Parts) (place : Option Position) (binding : Nat) (e : Expr)
    (op quantity : String) : Parser Expr := do
  unless ← isSymbol "(" do unexpected "("
  let right : List Piece ←
    if (← peekAt 1).any (Token.isAnyKeyword ["SELECT", "WITH"]) then
      pure (enclosed (← parts.expr binding))
    else pure [.text "(", .part (← inParens (parts.expr binding)), .text ")"]
  unless comparisons.contains op do refuse (noComparison op) place
  return .phrase (.part e :: .text (" " ++ op ++ " " ++ quantity) :: right)

/-- The operators whose right side is all that follows, in a dialect. -/
def greedyWords : Dialect → List String
  | .mySql => ["DIV"]
  | .sqlite => ["REGEXP", "MATCH"]
  | _ => []

def applyOperator (parts : Parts) (binding : Nat) (e : Expr) : Parser Expr := do
  let d := (← read).dialect
  let place ← position?
  if let some word ← acceptOneOf (greedyWords d) then return .binary e word (← parts.whole)
  if let some op ← binaryOperator? then
    match ← acceptOneOf ["ANY", "ALL", "SOME"] with
    | some quantity => return ← quantified parts place binding e op quantity
    | none => return .binary e op (← parts.expr binding)
  if ← accept "::" then return .cast "" e ("::" ++ (← dataType).render)
  if ← acceptWord "IS" then return ← isTest parts e
  if ← acceptWords ["AT", "TIME", "ZONE"] then
    return .phrase [e, " AT TIME ZONE ", ← parts.expr binding]
  if ← isOneOf ["NOT", "IN", "BETWEEN", "LIKE", "ILIKE", "SIMILAR", "REGEXP", "RLIKE"] then
    return ← comparison parts e
  if (← isWord "NOTNULL") && (← nextLevel?).isSome then
    skip
    return .phrase [e, " IS NOT NULL"]
  if ← acceptWord "MEMBER" then
    unless ← acceptWord "OF" do unexpected "OF after MEMBER"
    return .phrase [e, " MEMBER OF(", ← inParens parts.whole, ")"]
  if ← acceptIf (d = .postgreSql) (accept "!") then return .marked e "!"
  if d = .snowflake && ((← isSymbol "[") || (← isSymbol ":")) then return ← objectField parts e
  match (← get).head? with
  | some found => throw (.noOperator found)
  | none => unexpected "an operator"

/-- Applies the next operators that bind tighter than `least`, at most `n`. A
period never is one of them. -/
def operatorsUpTo (parts : Parts) (least : Nat) : Nat → Expr → Parser Expr
  | 0, e => return e
  | n + 1, e => do
    let binding ← nextBinding
    if binding ≤ least then return e
    operatorsUpTo parts least n (← applyOperator parts binding e)

/-- An expression whose operators bind tighter than `least`. -/
def expression (parts : Parts) (least : Nat) : Parser Expr := do
  let e ← withPath parts (operand parts)
  operatorsUpTo parts least (← bound) (← collated e)

/-- The parsers of expressions and queries that nest at most `n` deep. -/
def parts : Nat → Parts
  | 0 => { expr := fun _ => throw .tooDeep, query := throw .tooDeep }
  | n + 1 => { expr := expression (parts n), query := query (parts n) }

def depthLimit : Nat := 50

end NormalForms.Sql.Parser

namespace NormalForms.Sql

/-- What a parser reads at the start of a text, all of which must consist of
tokens. -/
def Parser.run {α : Type} (p : Parser α) (d : Dialect) (text : String) :
    Except SyntaxError α := do
  let ts ← Lexer.tokens d.lexicon text
  return (← p { dialect := d, size := ts.length } ts).1

def Expr.parse (d : Dialect) (text : String) : Except SyntaxError Expr :=
  (Parser.parts Parser.depthLimit).whole.run d text

end NormalForms.Sql
