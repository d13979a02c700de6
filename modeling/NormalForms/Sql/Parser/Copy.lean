import NormalForms.Sql.Parser.Property
import NormalForms.Sql.Parser.Query
import NormalForms.Sql.Parser.Setting

/-!
# Reading copies of rows

Rows are copied from tables to files and back. The options of a copy stand in
parentheses or, in an older form, one after the other; one dialect copies between
tables and places for files.
-/

namespace NormalForms.Sql.Parser

/-! ## Options -/

def literalChar : Parser Unit := do
  let place ← position?
  let text ← literalText
  unless text.utf8ByteSize = 1 do refuse ("Expect a char, found \"" ++ text ++ "\"") place

def copyOption : Parser Unit := do
  match ← acceptOneOf ["FORMAT", "FREEZE", "DELIMITER", "NULL", "HEADER", "QUOTE", "ESCAPE",
      "FORCE_QUOTE", "FORCE_NOT_NULL", "FORCE_NULL", "ENCODING"] with
  | some "FORMAT" => discard name
  | some "FREEZE" | some "HEADER" => discard (acceptOneOf ["TRUE", "FALSE"])
  | some "DELIMITER" | some "QUOTE" | some "ESCAPE" => literalChar
  | some "NULL" | some "ENCODING" => discard literalText
  | some _ => discard (columnList name)
  | none => unexpected "option"

def csvOption : Parser Unit := do
  match ← acceptOneOf ["HEADER", "QUOTE", "ESCAPE", "FORCE"] with
  | some "HEADER" => return
  | some "FORCE" =>
    if (← acceptFirst [["NOT", "NULL"], ["QUOTE"]]).isSome then discard (items name)
    else unexpected "csv option"
  | some _ =>
    let _ ← acceptWord "AS"
    literalChar
  | none => unexpected "csv option"

def fileRole : Parser Unit := do
  unless ← acceptWord "DEFAULT" do discard literalText

def plainCopyOptions : List String := [
  "ACCEPTANYDATE", "ADDQUOTES", "ALLOWOVERWRITE", "BINARY", "BLANKSASNULL", "BZIP2", "CLEANPATH",
  "EMPTYASNULL", "ESCAPE", "GZIP", "HEADER", "PARQUET", "REMOVEQUOTES", "TRUNCATECOLUMNS", "ZSTD"]

def oldCopyValue (keyword : String) : Parser Unit := do
  let text? : Parser Unit := do
    let _ ← acceptWord "AS"
    if let some (.string .single _) := ← peek then discard literalText
  let size : Parser Unit := do
    let _ ← acceptWord "AS"
    let _ ← unsignedNumber
    discard (acceptOneOf ["MB", "GB"])
  let switch : Parser Unit := discard (acceptOneOf ["TRUE", "FALSE", "ON", "OFF"])
  match keyword with
  | "ACCEPTINVCHARS" | "DATEFORMAT" | "JSON" | "TIMEFORMAT" => text?
  | "COMPUPDATE" =>
    let _ ← acceptWord "PRESET"
    switch
  | "CSV" => discard (many (attempt csvOption))
  | "DELIMITER" =>
    let _ ← acceptWord "AS"
    literalChar
  | "ENCRYPTED" => discard (acceptWord "AUTO")
  | "EXTENSION" | "FIXEDWIDTH" => discard literalText
  | "IAM_ROLE" => fileRole
  | "IGNOREHEADER" =>
    let _ ← acceptWord "AS"
    discard natural
  | "MANIFEST" => discard (acceptWord "VERBOSE")
  | "MAXFILESIZE" | "ROWGROUPSIZE" => size
  | "NULL" | "REGION" =>
    let _ ← acceptWord "AS"
    discard literalText
  | "PARALLEL" | "STATUPDATE" => switch
  | "PARTITION" =>
    demandWord "BY"
    let _ ← columnList name
    discard (acceptWord "INCLUDE")
  | _ => return

def oldCopyOption : Parser Unit := do
  if ← acceptWord "FORMAT" then discard (acceptWord "AS")
  let valued := ["ACCEPTINVCHARS", "COMPUPDATE", "CSV", "DATEFORMAT", "DELIMITER", "ENCRYPTED",
    "EXTENSION", "FIXEDWIDTH", "IAM_ROLE", "IGNOREHEADER", "JSON", "MANIFEST", "MAXFILESIZE", "NULL",
    "PARALLEL", "PARTITION", "REGION", "ROWGROUPSIZE", "STATUPDATE", "TIMEFORMAT"]
  oldCopyValue (← orElse (acceptOneOf (plainCopyOptions ++ valued)) "option")

def oldCopyOptions : Parser Unit := discard (many (attempt oldCopyOption))

/-! ## Tables and files -/

/-- Rows that are copied, after the first word. What is read from the input
follows a semicolon. -/
def copy (parts : Parts) : Parser Unit := do
  let ofQuery ← accept "("
  if ofQuery then
    let _ ← parts.query
    demand ")"
  else
    let _ ← dottedName
    discard (columnList? name)
  let direction ← orElse (acceptOneOf ["FROM", "TO"]) "FROM or TO"
  if ofQuery && direction = "FROM" then
    refuse "COPY ... FROM does not support query as a source" none
  let target ← acceptOneOf ["STDIN", "STDOUT", "PROGRAM"]
  unless target == some "STDIN" || target == some "STDOUT" do discard literalText
  let _ ← acceptWord "WITH"
  if ← isSymbol "(" then discard (parenthesized copyOption)
  oldCopyOptions
  if target == some "STDIN" then demand ";"

def unload (parts : Parts) : Parser Unit := do
  demand "("
  if let some (.string .single _) := ← peek then discard literalText else discard parts.query
  demand ")"
  demandWord "TO"
  let _ ← name
  maybe ["IAM_ROLE"] fileRole
  let _ ← properties? parts "WITH"
  oldCopyOptions

/-! ## Tables and places -/

/-- A column of a file by its number, or a part of it, with an alias perhaps. -/
def fileColumn : Parser Unit := do
  let number (wanted : String) : Parser Unit := do
    match ← peek with
    | some (.placeholder _) => skip
    | _ => unexpected wanted
  if let some (.word _ _) := ← peek then
    skip
    demand "."
    number "file_col_num"
  else number "alias or file_col_num"
  if ← accept ":" then
    match ← anyToken with
    | some (.word _ _) => pure ()
    | _ => unexpected "file_col_num"
  if ← acceptWord "AS" then
    match ← anyToken with
    | some (.word _ _) => pure ()
    | _ => unexpected "column item alias"

/-- What is selected from files, without a comma that trails. -/
def fileColumns (parts : Parts) : Parser Unit := do
  let item : Parser Unit := do
    if (← attempt fileColumn).isNone then discard (selectItem parts)
  discard (itemsUpTo false [] item (← bound))

def fileNames : Parser Unit := inParens do
  discard <| itemsUpTo false [] (do
    match ← peek with
    | some (.string .single _) => skip
    | _ => unexpected "file token") (← bound)

/-- Where the rows of a copy come from; `toPlace` says whether they go to a place for
files. -/
def copySource (parts : Parts) (toPlace : Bool) : Parser Unit := do
  if ← accept "(" then
    if toPlace then discard parts.query
    else
      demandWord "SELECT"
      fileColumns parts
      demandWord "FROM"
      place
      placeSettings
      discard tableAlias?
    demand ")"
  else
    place
    placeSettings
    if ← acceptWord "AS" then
      match ← anyToken with
      | some (.word _ _) => return
      | _ => unexpected "stage alias"

/-- An option of a copy between tables and places; nothing at the end. -/
def placeCopyOption? (parts : Parts) : Parser (Option Unit) := do
  if ← acceptWords ["PARTITION", "BY"] then
    let _ ← parts.whole
    return some ()
  match ← acceptOneOf ["FILE_FORMAT", "FILES", "PATTERN", "VALIDATION_MODE", "COPY_OPTIONS"] with
  | some keyword =>
    demand "="
    match keyword with
    | "FILES" => fileNames
    | "PATTERN" =>
      match ← peek with
      | some (.string .single _) => skip
      | _ => unexpected "pattern"
    | "VALIDATION_MODE" => skip
    | _ => settings
    return some ()
  | none =>
    match ← anyToken with
    | none | some (.symbol ";") => return none
    | some (.symbol ",") => return some ()
    | some (.word _ _) =>
      setting settings
      return some ()
    | some _ => unexpected "another copy option, ; or EOF'"

def copyInto (parts : Parts) : Parser Unit := do
  let toPlace := match ← peek with
    | some (.symbol "@") => true
    | some (.string .single text) => Text.contains text "://"
    | _ => false
  place
  if toPlace then placeSettings
  if ← isSymbol "(" then discard (inParens (itemsBefore ")" name))
  demandWord "FROM"
  copySource parts toPlace
  discard (many (placeCopyOption? parts))

def placeFiles : Parser Unit := do
  place
  if ← acceptWord "PATTERN" then
    demand "="
    discard literalText

end NormalForms.Sql.Parser
