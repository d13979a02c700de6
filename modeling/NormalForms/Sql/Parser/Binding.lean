import NormalForms.Sql.Parser

/-!
# How tight operators bind

Operators stand on levels; each dialect gives a level a number, and an operator
with a greater number binds tighter. `nextBinding` is the number of the operator
that is next, zero if none is.
-/

namespace NormalForms.Sql

/-- The levels on which operators stand. -/
inductive Level where
  | or
  | and
  | not
  | is
  | equal
  | like
  | between
  | pipe
  | ampersand
  | xor
  | additive
  | multiplicative
  | caret
  | timeZone
  | collation
  | subscript
  | cast
  | period
  | other
  deriving DecidableEq, Repr

namespace Level

def standard : Level → Nat
  | or => 5
  | and => 10
  | not => 15
  | other => 16
  | is => 17
  | like => 19
  | between | equal => 20
  | pipe => 21
  | caret => 22
  | ampersand => 23
  | xor => 24
  | additive => 30
  | multiplicative => 40
  | timeZone => 41
  | collation | subscript | cast => 50
  | period => 100

def postgreSql : Level → Nat
  | or => 10
  | and => 20
  | not => 30
  | is => 40
  | equal => 50
  | like | between => 60
  | pipe | ampersand | other => 70
  | xor => 75
  | additive => 80
  | multiplicative => 90
  | caret => 100
  | timeZone => 110
  | collation => 120
  | subscript => 130
  | cast => 140
  | period => 200

def binding (d : Dialect) (l : Level) : Nat :=
  if d = .postgreSql then l.postgreSql else l.standard

end Level

namespace Parser

def commonLevel? (s : String) : Option Level :=
  if [":=", "=", "==", "<>", "<", "<=", ">", ">=", "<=>", "~", "~*", "!~", "!~*", "~~", "~~*",
    "!~~", "!~~*"].contains s then some .equal
  else if ["+", "-"].contains s then some .additive
  else if ["*", "/", "//", "%"].contains s then some .multiplicative
  else if s = "^" then some .caret
  else if s = "|" ∨ s = "@" then some .pipe
  else if s = "&" then some .ampersand
  else if s = "::" then some .cast
  else if s = "[" then some .subscript
  else if ["->", "->>", "#>", "#>>", "@>", "<@", "#-", "@?", "@@", "?", "?&", "?|"].contains s then
    some .other
  else none

def symbolLevel? (d : Dialect) (s : String) : Option Level :=
  match commonLevel? s with
  | some l => some l
  | none =>
    if d = .postgreSql then
      if ["||", "#", "<<", ">>", "!", "&&", "^@", "##", "&<", "&>", "&<|", "|&>", "|>>", "<<|",
        "<->", "<^", ">^", "?#", "?-", "?-|", "?||", "~="].contains s then some .other
      else none
    else if s = "||" then some .multiplicative
    else if ["#", "<<", ">>"].contains s then some .caret
    else if ["!", "&&", "^@"].contains s then some .cast
    else if s = ":" ∧ d = .snowflake then some .cast
    else none

def patternWords : List String :=
  ["LIKE", "ILIKE", "RLIKE", "REGEXP", "MATCH", "SIMILAR", "MEMBER"]

def wordLevel? (keyword : String) : Option Level :=
  if patternWords.contains keyword then some .like
  else match keyword with
  | "OR" => some .or
  | "AND" => some .and
  | "XOR" => some .xor
  | "IS" => some .is
  | "IN" | "BETWEEN" | "OVERLAPS" | "OPERATOR" => some .between
  | "DIV" => some .multiplicative
  | _ => none

/-- The level of an operator that `NOT` starts, by the keyword after it; `column`
says whether an option of a column is read. -/
def negatedLevel? (column : Bool) (keyword : String) : Option Level :=
  if ["IN", "BETWEEN"].contains keyword then some .between
  else if patternWords.contains keyword then some .like
  else if keyword = "NULL" ∧ !column then some .is
  else none

def nextLevel? : Parser (Option Level) := do
  let scope ← read
  let column ← inColumn
  match ← peek with
  | some (.symbol s) => return symbolLevel? scope.dialect s
  | some (.operator _) => return some .other
  | some token =>
    match token.capitals? with
    | some "NOT" => return ((← peekAt 1).bind Token.capitals?).bind (negatedLevel? column)
    | some "NOTNULL" =>
      return if [.postgreSql, .sqlite, .duckDb].contains scope.dialect then some .is else none
    | some "AT" => return if ← areWords ["AT", "TIME", "ZONE"] then some .timeZone else none
    | some "COLLATE" =>
      return if scope.dialect = .postgreSql ∧ !column then some .collation else none
    | some keyword => return wordLevel? keyword
    | none => return none
  | none => return none

/-- How tight the operator binds that is next; zero if none is. -/
def nextBinding : Parser Nat := do
  let d := (← read).dialect
  return ((← nextLevel?).map (Level.binding d)).getD 0

end Parser

end NormalForms.Sql
