import NormalForms.Sql.Parser.Binding
import NormalForms.Sql.Parser.DataType

/-!
# Parts of forms

Expressions and queries stand within each other. The parsers of a form take
those of the expressions and queries in it as an argument, `Parts`, so that each
level of nesting can have its own. What a form renders to is a list of pieces;
`clause` puts a keyword in front of some.
-/

namespace NormalForms.Sql.Parser

/-- The parsers of what a form is made of. -/
structure Parts where
  /-- An expression whose operators all bind tighter than a bound. -/
  expr : Nat → Parser Expr
  /-- A query, as its pieces. -/
  query : Parser (List Piece)

namespace Parts

def whole (parts : Parts) : Parser Expr := parts.expr 0

/-- An expression that binds tighter than a level does. -/
def tighterThan (parts : Parts) (l : Level) : Parser Expr := do
  parts.expr (l.binding (← read).dialect)

def pieces (parts : Parts) : Parser (List Piece) := return [.part (← parts.whole)]

def list (parts : Parts) : Parser (List Piece) := do
  return Piece.ofExprs (← items parts.whole)

def subquery (parts : Parts) : Parser (List Piece) := do
  return .text "(" :: (← inParens parts.query) ++ [.text ")"]

end Parts

def startsQuery : Parser Bool := isOneOf ["SELECT", "WITH"]

/-! ## Clauses -/

def optional (p : Parser (Option (List Piece))) : Parser (List Piece) := return (← p).getD []

/-- A keyword in front of pieces, both after a space. -/
def clause (keyword : String) (pieces : List Piece) : List Piece :=
  .text (" " ++ keyword ++ " ") :: pieces

def clause? (keywords : List String) (p : Parser (List Piece)) : Parser (List Piece) :=
  optional <| after? (acceptWords keywords) do
    return clause (String.intercalate " " keywords) (← p)

/-- A clause that may be missing, in the dialects that have it. -/
def clauseIn? (dialects : List Dialect) (keywords : List String) (p : Parser (List Piece)) :
    Parser (List Piece) := do
  if ← inDialect dialects then clause? keywords p else return []

def mark? (keyword : String) : Parser String := do
  if ← acceptWord keyword then return " " ++ keyword else return ""

/-! ## Lists in parentheses -/

def columnList {α : Type} (p : Parser α) : Parser (List α) := do
  if ← isSymbol "(" then parenthesized p else unexpected "a list of columns in parentheses"

def columnList? {α : Type} (p : Parser α) : Parser (List α) := do
  if ← isSymbol "(" then parenthesized p else return []

/-- A list of columns that may be missing and, where `empties` says so, have no
columns. -/
def insertedColumns (empties : Bool) : Parser Unit := do
  if ← isSymbol "(" then
    let _ ← inParens (if empties then itemsBefore ")" name else items name)

def nameList (names : List Name) : String := "(" ++ listed (names.map Name.render) ++ ")"

end NormalForms.Sql.Parser
