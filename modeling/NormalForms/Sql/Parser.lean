import NormalForms.Sql.Lexer
import NormalForms.Sql.Name

/-!
# Parsers

A parser reads from the front of a list of tokens and hands on the rest, or
fails with a syntax error; it knows the dialect it reads. `accept` parsers read
a symbol or some keywords if they are next; `demand` parsers fail otherwise.
`attempt` goes back to where it started on a failure, except when expressions
nest too deep.
-/

namespace NormalForms.Sql

/-- What an expression stands in, as far as some words change their meaning. -/
inductive Surroundings where
  | usual
  /-- An option of a column, where the words that start other options are no
  operators. -/
  | column
  /-- A hierarchy of rows, where `PRIOR` is an operator. -/
  | hierarchy
  deriving DecidableEq, Repr

structure Scope where
  dialect : Dialect
  /-- The number of tokens of the text. -/
  size : Nat
  surroundings : Surroundings := .usual

abbrev Parser := ReaderT Scope (StateT (List Located) (Except SyntaxError))

namespace Parser

/-! ## Dialects -/

def inDialect (dialects : List Dialect) : Parser Bool :=
  return dialects.contains (← read).dialect

def within {α : Type} (surroundings : Surroundings) (p : Parser α) : Parser α := fun scope =>
  p { scope with surroundings }

def inColumn : Parser Bool := return (← read).surroundings = .column

/-- More steps than a parser can take if it reads a token in each. -/
def bound : Parser Nat := return (← read).size.succ

/-! ## Tokens -/

def peekAt (n : Nat) : Parser (Option Token) := return ((← get).drop n).head?.map Located.token

def peek : Parser (Option Token) := peekAt 0

def position? : Parser (Option Position) := return (← get).head?.map Located.position

def skip : Parser Unit := modify (·.drop 1)

def anyToken : Parser (Option Token) := do
  let t ← peek
  skip
  return t

/-- The token that was read last since `start`. -/
def lastSince (start : List Located) : Parser (Option Located) := do
  return (start.take (start.length - (← get).length)).getLast?

def backSince (start : List Located) : Parser Unit := do
  set (start.drop (start.length - (← get).length - 1))

/-- Fails at the next token, where something else is wanted. -/
def unexpected {α : Type} (wanted : String) : Parser α := do
  throw (.unexpected wanted (← get).head?)

/-- Fails because of a condition that does not hold. -/
def refuse {α : Type} (reason : String) (place : Option Position) : Parser α :=
  throw (.refused reason place)

def refuseHere {α : Type} (reason : String) : Parser α := do refuse reason (← position?)

def isSymbol (s : String) : Parser Bool := return (← peek) == some (.symbol s)

def accept (s : String) : Parser Bool := do
  if ← isSymbol s then
    skip
    return true
  else return false

def demand (s : String) : Parser Unit := do
  unless ← accept s do unexpected s

/-! ## Keywords -/

def isWord (keyword : String) : Parser Bool := return (← peek).any (Token.isKeyword keyword)

def isOneOf (keywords : List String) : Parser Bool :=
  return (← peek).any (Token.isAnyKeyword keywords)

def startsWith : List String → List Located → Bool
  | [], _ => true
  | _ :: _, [] => false
  | k :: ks, t :: ts => t.token.isKeyword k && startsWith ks ts

def areWords (keywords : List String) : Parser Bool := return startsWith keywords (← get)

def acceptWords (keywords : List String) : Parser Bool := do
  if ← areWords keywords then
    modify (·.drop keywords.length)
    return true
  else return false

def acceptWord (keyword : String) : Parser Bool := acceptWords [keyword]

def demandWord (keyword : String) : Parser Unit := do
  unless ← acceptWord keyword do unexpected keyword

def demandWords (keywords : List String) : Parser Unit := keywords.forM demandWord

def acceptOneOf (keywords : List String) : Parser (Option String) := do
  match (← peek).bind Token.capitals? with
  | some k =>
    if keywords.contains k then
      skip
      return some k
    else return none
  | none => return none

def demandOneOf (keywords : List String) : Parser String := do
  match ← acceptOneOf keywords with
  | some k => return k
  | none => unexpected ("one of " ++ String.intercalate " or " keywords)

def acceptFirst : List (List String) → Parser (Option (List String))
  | [] => return none
  | keywords :: others => do
    if ← acceptWords keywords then return some keywords else acceptFirst others

/-- `p`, which reads nothing if the condition fails. -/
def acceptIf (condition : Bool) (p : Parser Bool) : Parser Bool :=
  if condition then p else return false

def acceptOnlyIn (dialects : List Dialect) (keywords : List String) : Parser Bool := do
  acceptIf (← inDialect dialects) (acceptWords keywords)

/-- Reads the keywords, and says whether a dialect that has them is read. -/
def acceptIn (dialects : List Dialect) (keywords : List String) : Parser Bool := do
  if ← acceptWords keywords then inDialect dialects else return false

/-! ## Choice and repetition -/

/-- The result of a parser, or nothing and no token read. -/
def attempt {α : Type} (p : Parser α) : Parser (Option α) := fun scope ts =>
  match p scope ts with
  | .ok (a, rest) => .ok (some a, rest)
  | .error .tooDeep => .error .tooDeep
  | .error _ => .ok (none, ts)

/-- What follows the token at which an error was noticed. -/
def afterError (ts : List Located) : SyntaxError → List Located
  | .unexpected _ (some found) => (ts.dropWhile fun t => t.position != found.position).drop 1
  | _ => []

/-- The result of a parser of names, or nothing; then the token that is no name
counts as read. -/
def lenient {α : Type} (p : Parser α) : Parser (Option α) := fun scope ts =>
  match p scope ts with
  | .ok (a, rest) => .ok (some a, rest)
  | .error e => .ok (none, afterError ts e)

def after? {α : Type} (condition : Parser Bool) (p : Parser α) : Parser (Option α) := do
  if ← condition then return some (← p) else return none

def maybe {α : Type} (keywords : List String) (p : Parser α) : Parser Unit := do
  if ← acceptWords keywords then discard p

/-- `p`, or a failure that says what is wanted. -/
def orElse {α : Type} (p : Parser (Option α)) (wanted : String) : Parser α := do
  match ← p with
  | some a => return a
  | none => unexpected wanted

/-- What `p` reads again and again until it finds nothing, at most `n` times. -/
def repeatUpTo {α : Type} (p : Parser (Option α)) : Nat → Parser (List α)
  | 0 => return []
  | n + 1 => do
    match ← p with
    | some a => return a :: (← repeatUpTo p n)
    | none => return []

def many {α : Type} (p : Parser (Option α)) : Parser (List α) := do
  repeatUpTo p (← bound)

/-- Does a list end here, though a comma was read? -/
def endsAfterComma (reserved : List String) : Parser Bool := do
  match ← peek with
  | none => return true
  | some (.symbol s) => return [")", ";", "]", "\x7d"].contains s
  | some t => return t.isAnyKeyword reserved

/-- Items with commas between them, at most one more than `n`. Where a comma may
trail, the list ends also at a mark or a reserved word after it. -/
def itemsUpTo {α : Type} (trailing : Bool) (reserved : List String) (p : Parser α) :
    Nat → Parser (List α)
  | 0 => return [← p]
  | n + 1 => do
    let a ← p
    unless ← accept "," do return [a]
    if trailing && (← endsAfterComma reserved) then return [a]
    return a :: (← itemsUpTo trailing reserved p n)

def items {α : Type} (p : Parser α) : Parser (List α) := do
  itemsUpTo (← inDialect [.duckDb]) Keyword.endOfItem p (← bound)

/-- Items before a closing mark, perhaps none. -/
def itemsBefore {α : Type} (closing : String) (p : Parser α) : Parser (List α) := do
  if ← isSymbol closing then return []
  if (← inDialect [.duckDb]) && (← isSymbol ",") && (← peekAt 1) == some (.symbol closing) then
    skip
    return []
  items p

def inParens {α : Type} (p : Parser α) : Parser α := do
  demand "("
  let a ← p
  demand ")"
  return a

def parenthesized {α : Type} (p : Parser α) : Parser (List α) := inParens (items p)

/-! ## Names -/

def name : Parser Name := do
  match ← peek with
  | some (.word value quote) => skip; return { value, quote }
  | some (.string .single value) => skip; return { value, quote := some '\'' }
  | some (.string .double value) => skip; return { value, quote := some '"' }
  | _ => unexpected "identifier"

def name? : Parser (Option Name) := attempt name

/-- A part of a dotted name. A word of one dialect calls for the text of a name
in parentheses. -/
def part : Parser Name := do
  let n ← name
  if (← inDialect [.snowflake]) && n.quote.isNone && Text.lower n.value == "identifier" then
    let argument ← inParens do
      let t ← peek
      skip
      return (t.map Token.text).getD ""
    return { value := n.value ++ "(" ++ argument ++ ")" }
  return n

/-- The further parts of a dotted name, at most `n`; the second part may be
missing in some dialects. -/
def partsUpTo (mayMiss : Bool) : Nat → Parser (List Name)
  | 0 => return []
  | n + 1 => do
    unless ← accept "." do return []
    if mayMiss && (← isSymbol ".") then return { value := "" } :: (← partsUpTo false n)
    return (← part) :: (← partsUpTo false n)

def dottedName : Parser DottedName := do
  let first ← part
  let mayMiss ← inDialect [.msSql, .snowflake]
  return ⟨first :: (← partsUpTo mayMiss (← bound))⟩

end Parser

end NormalForms.Sql
