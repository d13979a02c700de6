import NormalForms.Sql.Parser.Change
import NormalForms.Sql.Parser.Property

/-!
# Reading how tables are stored

The options of a table that stand without parentheses, and the files that hold
its rows.
-/

namespace NormalForms.Sql.Parser

/-! ## Options without parentheses -/

def tableRemark : Parser Unit := do
  let _ ← accept "="
  match ← peek with
  | some (.string .single _) => skip
  | found => refuse (SyntaxError.mismatch "Token::SingleQuotedString" found) none

/-- A word that is asked for as a token of that kind. -/
def plainWord : Parser Unit := do
  match ← peek with
  | some (.word _ _) => skip
  | _ => unexpected "Token::Word"

def engine : Parser Unit := do
  let _ ← accept "="
  plainWord
  let _ ← columnList? name

def tablespace : Parser Unit := do
  let _ ← accept "="
  match ← peek with
  | some (.word _ _) | some (.string .single _) => skip
  | _ => unexpected "Token::Word"
  if ← acceptWord "STORAGE" then
    let _ ← accept "="
    match ← peek with
    | some (.word text _) =>
      unless ["DISK", "MEMORY"].contains (Keyword.ofText text) do
        unexpected "Storage type (DISK or MEMORY)"
      skip
    | _ => unexpected "Token::Word"

/-- The tables that a table is a union of, after its word. -/
def mergedTables : Parser Unit := do
  let _ ← accept "="
  unless ← accept "(" do unexpected "Token::LParen"
  let _ ← itemsBefore ")" name
  demand ")"

/-- The options of a table with a value or a name. -/
def valuedOptions : List (List String) := [
  ["DEFAULT", "CHARSET"], ["CHARSET"], ["DEFAULT", "CHARACTER", "SET"], ["CHARACTER", "SET"],
  ["DEFAULT", "COLLATE"], ["COLLATE"], ["DATA", "DIRECTORY"], ["INDEX", "DIRECTORY"],
  ["KEY_BLOCK_SIZE"], ["ROW_FORMAT"], ["PACK_KEYS"], ["STATS_AUTO_RECALC"], ["STATS_PERSISTENT"],
  ["STATS_SAMPLE_PAGES"], ["DELAY_KEY_WRITE"], ["COMPRESSION"], ["ENCRYPTION"], ["MAX_ROWS"],
  ["MIN_ROWS"], ["AUTOEXTEND_SIZE"], ["AVG_ROW_LENGTH"], ["CHECKSUM"], ["CONNECTION"],
  ["ENGINE_ATTRIBUTE"], ["PASSWORD"], ["SECONDARY_ENGINE_ATTRIBUTE"], ["INSERT_METHOD"],
  ["AUTO_INCREMENT"]]

def storageOption? : Parser Bool := do
  if ← acceptWords ["START", "TRANSACTION"] then return true
  if ← acceptWord "COMMENT" then
    tableRemark
    return true
  if ← acceptWord "ENGINE" then
    engine
    return true
  if ← acceptWord "TABLESPACE" then
    tablespace
    return true
  if ← acceptWord "UNION" then
    mergedTables
    return true
  if (← acceptFirst valuedOptions).isNone then return false
  let _ ← accept "="
  if (← attempt value).isNone then
    let _ ← name
  return true

def storageOptions : Parser Unit := do
  let _ ← many <| after? storageOption? (discard (accept ","))

/-! ## Files -/

/-- What ends the fields, elements, keys or lines of a file, or stands for a
missing value. Of words that are not complete the first is read. -/
def delimiter? : Parser Bool := do
  match ← acceptFirst [["FIELDS", "TERMINATED", "BY"], ["COLLECTION", "ITEMS", "TERMINATED", "BY"],
      ["MAP", "KEYS", "TERMINATED", "BY"], ["LINES", "TERMINATED", "BY"],
      ["NULL", "DEFINED", "AS"]] with
  | none =>
    let _ ← acceptOneOf ["FIELDS", "COLLECTION", "MAP", "LINES", "NULL"]
    return false
  | some words =>
    let _ ← name
    if words.head? = some "FIELDS" then maybe ["ESCAPED", "BY"] name
    return true

def rowFormatting : Parser Unit := do
  demandWord "FORMAT"
  if ← acceptWord "SERDE" then discard literalText
  else
    let _ ← acceptWord "DELIMITED"
    discard (many (after? delimiter? (return ())))

def filesOf (parts : Parts) : Parser Unit := do
  if ← acceptWord "INPUTFORMAT" then
    let _ ← parts.whole
    demandWord "OUTPUTFORMAT"
    discard parts.whole
  else fileFormat

def fileOption? (parts : Parts) : Parser Bool := do
  if ← acceptWord "ROW" then
    rowFormatting
    return true
  if ← acceptWord "STORED" then
    demandWord "AS"
    filesOf parts
    return true
  if ← acceptWord "LOCATION" then
    let _ ← literalText
    return true
  unless ← acceptWords ["WITH", "SERDEPROPERTIES"] do return false
  let _ ← parenthesized (property parts)
  return true

def fileOptions (parts : Parts) : Parser Unit :=
  discard (many (after? (fileOption? parts) (return ())))

end NormalForms.Sql.Parser
