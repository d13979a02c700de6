import NormalForms.Sql.Expr
import NormalForms.Sql.Parser

/-!
# Reading values

Numbers, texts and the words that stand for values, as far as they are single
tokens. Where a form asks for one kind of them only, the message says which.
-/

namespace NormalForms.Sql.Parser

/-! ## Counts -/

def digitsValue (cs : List Char) : Nat :=
  cs.foldl (fun n c => 10 * n + (c.toNat - '0'.toNat)) 0

/-- The number that a text spells, if it has digits only and is no greater than
`largest`; `kind` names the numbers up to there in a message. -/
def readNumber (kind : String) (largest : Nat) (text : String) (start : Position) :
    Except SyntaxError Nat :=
  if !text.toList.all Char.isDigit then
    .error (.notANumber text kind "invalid digit found in string" start)
  else if largest < digitsValue text.toList then
    .error (.notANumber text kind "number too large to fit in target type" start)
  else .ok (digitsValue text.toList)

def numeral (wanted kind : String) (largest : Nat) : Parser Nat := do
  match (← get).head? with
  | some ⟨.number text _, start⟩ => do
    skip
    readNumber kind largest text start
  | _ => unexpected wanted

def natural : Parser Nat := numeral "literal int" "u64" (UInt64.size - 1)

def integer : Parser Int := do
  if ← accept "-" then return -(← numeral "number" "i64" (UInt64.size / 2 - 1) : Nat)
  let _ ← accept "+"
  return (← numeral "number" "i64" (UInt64.size / 2 - 1) : Nat)

/-! ## Literals -/

def adjacentTexts : Parser String := do
  let texts ← many do
    match ← peek with
    | some (.string .single text) | some (.string .double text) => skip; return some text
    | _ => return none
  return String.join texts

/-- A text literal; some dialects join those that stand next to each other. -/
def textValue (quoting : Quoting) (text : String) : Parser Literal := do
  skip
  if (quoting = .single ∨ quoting = .double) && (← inDialect [.mySql]) then
    return .string quoting (text ++ (← adjacentTexts))
  return .string quoting text

def wordValue? (text : String) : Parser (Option Literal) := do
  let truth := !(← inDialect [.msSql])
  match Keyword.ofText text with
  | "TRUE" => return if truth then some (.bool true) else none
  | "FALSE" => return if truth then some (.bool false) else none
  | "NULL" => return some .null
  | _ => return none

/-- The blank that parts two tokens, at the end of the first. -/
def blankBetween (stop next : Position) : Located :=
  ⟨.symbol (if stop.line = next.line then " " else "\n"), stop⟩

/-- A placeholder after its mark, which it must touch. -/
def markedPlaceholder (mark : String) : Parser Literal := do
  let stop := (← position?).map fun p => Position.mk p.line (p.column + 1)
  skip
  match stop, (← get).head? with
  | some stop, some next =>
    if next.position != stop then
      throw (.unexpected "placeholder" (some (blankBetween stop next.position)))
    match next.token with
    | .word text _ | .number text false => skip; return .placeholder (mark ++ text)
    | _ => unexpected "placeholder"
  | _, _ => unexpected "placeholder"

def value : Parser Literal := do
  match ← peek with
  | some (.word text none) =>
    let v ← orElse (wordValue? text) "a concrete value"
    skip
    return v
  | some (.word text (some '"')) => skip; return .string .double text
  | some (.word _ (some _)) => unexpected "A value?"
  | some (.number text isLong) => skip; return .number (Token.number text isLong).text
  | some (.string quoting text) => textValue quoting text
  | some (.placeholder text) => skip; return .placeholder text
  | some (.symbol ":") => markedPlaceholder ":"
  | some (.symbol "@") => markedPlaceholder "@"
  | _ => unexpected "a value"

def isNumber : Literal → Bool
  | .number _ | .placeholder _ => true
  | _ => false

def unsignedNumber : Parser String := do
  let before ← get
  let v ← value
  unless isNumber v do throw (.unexpected "literal number" before.head?)
  return v.render

def number : Parser String := do
  if ← accept "-" then return "-" ++ (← unsignedNumber)
  if ← accept "+" then return "+" ++ (← unsignedNumber)
  unsignedNumber

/-- A text; a word will do that is no keyword. -/
def literalText : Parser String := do
  match ← peek with
  | some (.word text quote) =>
    if quote.isNone && Keyword.isKnown (Keyword.ofText text) then unexpected "literal string"
    skip
    return text
  | some (.string quoting text) =>
    if [Quoting.single, .double, .escaped, .unicode].contains quoting then
      skip
      return text
    unexpected "literal string"
  | _ => unexpected "literal string"

def remark : Parser Unit := do
  match ← peek with
  | some (.string .single _) | some (.string (.dollar _) _) => skip
  | _ => unexpected "string literal"

/-! ## Fields of times -/

def dateFields : List String := [
  "YEAR", "YEARS", "MONTH", "MONTHS", "WEEK", "WEEKS", "DAY", "DAYOFWEEK", "DAYOFYEAR", "DAYS",
  "DATE", "DATETIME", "HOUR", "HOURS", "MINUTE", "MINUTES", "SECOND", "SECONDS", "CENTURY",
  "DECADE", "DOY", "DOW", "EPOCH", "ISODOW", "ISOYEAR", "ISOWEEK", "JULIAN", "MICROSECOND",
  "MICROSECONDS", "MILLENIUM", "MILLENNIUM", "MILLISECOND", "MILLISECONDS", "NANOSECOND",
  "NANOSECONDS", "QUARTER", "TIME", "TIMEZONE", "TIMEZONE_ABBR", "TIMEZONE_HOUR",
  "TIMEZONE_MINUTE", "TIMEZONE_REGION"]

def spanFields : List String :=
  dateFields.filter fun f =>
    !(["DAYOFWEEK", "DAYOFYEAR", "DATE", "DATETIME", "ISOWEEK", "TIME", "TIMEZONE_ABBR",
      "TIMEZONE_REGION"].contains f)

/-- A field of a time, such as its hour; some dialects take any name for one. -/
def dateField : Parser String := do
  match ← acceptOneOf dateFields with
  | some field =>
    if field = "WEEK" && (← inDialect [.generic]) && (← isSymbol "(") then
      return field ++ "(" ++ (← inParens name).render ++ ")"
    return field
  | none =>
    let custom ← inDialect [.generic, .postgreSql, .snowflake]
    let quoted ← inDialect [.generic, .postgreSql, .snowflake, .duckDb]
    match ← peek with
    | some (.word _ _) => if custom then return (← name).render else unexpected "date/time field"
    | some (.string .single _) =>
      if quoted then return (← name).render else unexpected "date/time field"
    | _ => unexpected "date/time field"

end NormalForms.Sql.Parser
