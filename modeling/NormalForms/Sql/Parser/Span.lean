import NormalForms.Sql.Parser.Parts

/-!
# Reading spans of time

`INTERVAL` comes before a length and a unit. Where a dialect needs the unit the
length may be any expression, elsewhere it is one operand; a unit may have a
precision and go down to a smaller one.
-/

namespace NormalForms.Sql.Parser

def collated (e : Expr) : Parser Expr := do
  if ← acceptIf (!(← inColumn)) (acceptWord "COLLATE") then
    return .phrase [.part e, .text (" COLLATE " ++ (← dottedName).render)]
  return e

def needsUnit : Parser Bool := inDialect [.ansi, .mySql]

def fieldPrecision : Parser String := do
  return ((← argument? natural).map fun n => " (" ++ n.repr ++ ")").getD ""

def secondPrecision : Parser String := do
  let digits ← argument? do
    let whole ← natural
    let fraction ← after? (accept ",") natural
    return whole.repr :: (fraction.map Nat.repr).toList
  return (digits.map fun ds => " (" ++ listed ds ++ ")").getD ""

/-- The unit of a span of time; in some dialects it may be missing, and still
have a precision or an end. -/
def spanUnit : Parser String := do
  let unit? ← if ← isOneOf spanFields then some <$> dateField else pure none
  if unit?.isNone && (← needsUnit) then
    refuseHere "INTERVAL requires a unit after the literal value"
  let unit := (unit?.map (" " ++ ·)).getD ""
  if unit = " SECOND" then return unit ++ (← secondPrecision)
  let first := unit ++ (← fieldPrecision)
  if ← acceptWord "TO" then
    let last ← dateField
    return first ++ " TO " ++ last ++ (← if last = "SECOND" then fieldPrecision else pure "")
  return first

/-- A span of time, after its word; `operand` reads its length where no unit is
needed. -/
def span (parts : Parts) (operand : Parser Expr) : Parser Expr := do
  let length ← if ← needsUnit then parts.whole else operand
  return .phrase [.text "INTERVAL ", .part length, .text (← spanUnit)]

end NormalForms.Sql.Parser
