import NormalForms.Sql.Parser.Value

/-!
# Reading data types

`Family` says which arguments a known type of one word takes; types with a form
of their own are read one by one. Any word that is not known, and any quoted or
dotted name, is a custom type.
-/

namespace NormalForms.Sql.Parser

/-! ## Arguments -/

/-- What `p` reads between parentheses, if a parenthesis is next. -/
def argument? {α : Type} (p : Parser α) : Parser (Option α) := do
  if ← isSymbol "(" then return some (← inParens p) else return none

def precision : Parser Precision := do
  let digits ← natural
  if ← accept "," then return ⟨digits, some (← integer)⟩
  return ⟨digits, none⟩

def textLength : Parser TextLength := do
  if ← acceptWord "MAX" then return .max
  let n ← natural
  return .characters n (← acceptOneOf ["CHARACTERS", "OCTETS"])

def byteLength : Parser TextLength := do
  if ← acceptWord "MAX" then return .max
  return .characters (← natural) none

def timeZone : Parser TimeZone := do
  if ← acceptWord "WITH" then
    demandWords ["TIME", "ZONE"]
    return .included
  if ← acceptWord "WITHOUT" then
    demandWords ["TIME", "ZONE"]
    return .excluded
  return .unspecified

def enumValue : Parser (String × Option String) := do
  let text ← literalText
  if ← accept "=" then return (text, some (← number))
  return (text, none)

/-- The texts of a set after the opening parenthesis, at most one more than `n`. -/
def setValuesUpTo : Nat → Parser (List (String × Option String))
  | 0 => unexpected "a string"
  | n + 1 => do
    match ← peek with
    | some (.string .single text) =>
      skip
      if ← accept "," then return (text, none) :: (← setValuesUpTo n)
      if ← accept ")" then return [(text, none)]
      unexpected ", or \x7d"
    | _ => unexpected "a string"

def setValues : Parser (List (String × Option String)) := do
  demand "("
  setValuesUpTo (← bound)

/-- One argument of a custom type; nothing at the parenthesis that closes them,
which is read too. -/
def modifier : Parser (Option String) := do
  let _ ← many (return if ← accept "," then some () else none)
  match ← peek with
  | some (.word text quote) => skip; return some (Token.word text quote).text
  | some (.number text _) => skip; return some text
  | some (.string .single text) => skip; return some text
  | some (.symbol ")") => skip; return none
  | _ => unexpected "type modifiers"

def modifiers : Parser (List String) := do
  if ← accept "(" then many modifier else return []

def intervalFields : Parser String := do
  match ← acceptOneOf ["YEAR", "DAY", "HOUR", "MINUTE", "MONTH", "SECOND"] with
  | none => return ""
  | some first =>
    let last (p : Parser String) : Parser String := do
      if ← acceptWord "TO" then return " " ++ first ++ " TO " ++ (← p) else return " " ++ first
    let only (field : String) : Parser String := do
      demandWord field
      return field
    match first with
    | "YEAR" => last (only "MONTH")
    | "DAY" => last (demandOneOf ["HOUR", "MINUTE", "SECOND"])
    | "HOUR" => last (demandOneOf ["MINUTE", "SECOND"])
    | "MINUTE" => last (only "SECOND")
    | _ => return " " ++ first

/-! ## Types of one word -/

/-- The arguments that a known type takes. -/
inductive Family where
  | plain
  | sized
  | integer
  | exact
  | numeric
  | real
  | text
  | bytes
  | time
  | enumeration
  | set
  deriving DecidableEq, Repr

def families : List (Family × List String) := [
  (.plain, ["BOOLEAN", "BOOL", "DATE", "TEXT", "TINYTEXT", "MEDIUMTEXT", "LONGTEXT", "TINYBLOB",
    "MEDIUMBLOB", "LONGBLOB", "BYTEA", "JSON", "JSONB", "UUID", "INT64", "FLOAT64", "FLOAT4",
    "FLOAT8", "HUGEINT", "UBIGINT", "UHUGEINT", "USMALLINT", "UTINYINT", "REGCLASS", "TRIGGER",
    "TIMESTAMP_NTZ"]),
  (.sized, ["BINARY", "BLOB", "BYTES", "CLOB", "STRING", "DATETIME", "TIMESTAMPTZ", "TIMETZ",
    "VARBIT"]),
  (.integer, ["TINYINT", "SMALLINT", "MEDIUMINT", "INT", "INT2", "INT4", "INT8", "INTEGER",
    "BIGINT"]),
  (.exact, ["NUMERIC", "BIGNUMERIC", "BIGDECIMAL"]),
  (.numeric, ["FLOAT", "DECIMAL", "DEC"]),
  (.real, ["REAL"]),
  (.text, ["VARCHAR", "NVARCHAR"]),
  (.bytes, ["VARBINARY"]),
  (.time, ["TIME", "TIMESTAMP"]),
  (.enumeration, ["ENUM", "ENUM8", "ENUM16"]),
  (.set, ["SET"])]

def spelledTypes : List (String × String) := [
  ("INT16", "Int16"), ("INT32", "Int32"), ("INT128", "Int128"), ("INT256", "Int256"),
  ("UINT8", "UInt8"), ("UINT16", "UInt16"), ("UINT32", "UInt32"), ("UINT64", "UInt64"),
  ("UINT128", "UInt128"), ("UINT256", "UInt256"), ("FLOAT32", "Float32"), ("DATE32", "Date32")]

def signedTypes : List String :=
  ["TINYINT", "SMALLINT", "MEDIUMINT", "INT", "INTEGER", "BIGINT"]

def family? (keyword : String) : Option Family :=
  (families.find? fun f => f.2.contains keyword).map Prod.fst

def ofFamily (keyword : String) : Family → Parser DataType
  | .plain => return .plain keyword
  | .sized => return .sized keyword (← argument? natural)
  | .integer => do
    let width ← argument? natural
    if ← acceptWord "UNSIGNED" then return .integer keyword width true
    let _ ← acceptIf (signedTypes.contains keyword) (acceptOnlyIn [.generic, .mySql] ["SIGNED"])
    return .integer keyword width false
  | .exact => return .numeric keyword (← argument? precision) false
  | .numeric => do
    let p ← argument? precision
    return .numeric keyword p (← acceptWord "UNSIGNED")
  | .real => return .numeric keyword none (← acceptWord "UNSIGNED")
  | .text => return .text keyword (← argument? textLength)
  | .bytes => return .text keyword (← argument? byteLength)
  | .time => do
    let p ← argument? natural
    return .time keyword p (← timeZone)
  | .enumeration => return .choice keyword (← parenthesized enumValue)
  | .set => return .choice keyword (← setValues)

/-! ## Types of several words -/

/-- A number of double precision, after its first word. With the second word it
takes no digits. -/
def double : Parser DataType := do
  if ← acceptWord "PRECISION" then ofFamily "DOUBLE PRECISION" .real
  else ofFamily "DOUBLE" .numeric

def characters (keyword : String) : Parser DataType := do
  if ← acceptWord "VARYING" then ofFamily (keyword ++ " VARYING") .text
  else if ← acceptWords ["LARGE", "OBJECT"] then ofFamily (keyword ++ " LARGE OBJECT") .sized
  else ofFamily keyword .text

def bits : Parser DataType := do
  if ← acceptWord "VARYING" then ofFamily "BIT VARYING" .sized else ofFamily "BIT" .sized

def interval : Parser DataType := do
  if ← inDialect [.generic, .postgreSql] then
    let fields ← intervalFields
    return .sized ("INTERVAL" ++ fields) (← argument? natural)
  return .plain "INTERVAL"

/-- A whole number of which only the sign is told, after that word. -/
def signedness (keyword : String) : Parser DataType := do
  if ← acceptWord "INTEGER" then return .plain (keyword ++ " INTEGER") else return .plain keyword

/-- The known type that a keyword starts in the dialect, after that keyword;
types made of others are left out. -/
def simpleType? (keyword : String) (d : Dialect) : Option (Parser DataType) :=
  match keyword with
  | "DOUBLE" => some double
  | "CHAR" | "CHARACTER" => some (characters keyword)
  | "BIT" => some bits
  | "INTERVAL" => some interval
  | "SIGNED" | "UNSIGNED" => some (signedness keyword)
  | "FIXEDSTRING" => some do return .sized "FixedString" (some (← inParens natural))
  | "DATETIME64" => some <| inParens do
    let digits ← natural
    let zone ← after? (accept ",") literalText
    return .composite "DateTime64" "(" (digits.repr :: (zone.map fun z => "'" ++ z ++ "'").toList) ")"
  | _ =>
    if (d = .postgreSql ∨ d = .generic) ∧ ["TSVECTOR", "TSQUERY"].contains keyword then
      some (return .plain keyword)
    else match spelledTypes.lookup keyword with
    | some spelled => some (return .plain spelled)
    | none => (family? keyword).map (ofFamily keyword)

/-! ## Types made of others -/

def bracketsUpTo : Nat → DataType → Parser DataType
  | 0, t => return t
  | n + 1, t => do
    if ← accept "[" then
      let size ← attempt natural
      demand "]"
      bracketsUpTo n (.array t size)
    else return t

/-- Reads one closing angle bracket; two of them may be one token, of which
`pending` says that one has been read already. The answer says whether that is
so now. -/
def closeAngle (pending : Bool) : Parser Bool := do
  if pending then return false
  if ← accept ">>" then return true
  demand ">"
  return false

/-- A type, and whether half a token of closing brackets is left. -/
abbrev Nested := DataType × Bool

/-- A type where no closing bracket may be left. -/
def whole (nested : Parser Nested) : Parser DataType := do
  let (t, pending) ← nested
  if pending then refuse ("unmatched > after parsing data type " ++ t.render ++
    SyntaxError.shown (← peek)) none
  return t

def field (nested : Parser Nested) : Parser (String × Bool) := do
  match ← peek, ← peekAt 1 with
  | some (.word _ _), some (.word _ _) | some (.word _ _), some (.symbol ":") =>
    let n ← name
    let _ ← accept ":"
    let (t, pending) ← nested
    return (n.render ++ " " ++ t.render, pending)
  | _, _ =>
    let (t, pending) ← nested
    return (t.render, pending)

def angleFieldsUpTo (nested : Parser Nested) : Nat → Parser (List String × Bool)
  | 0 => unexpected ">"
  | n + 1 => do
    let (text, pending) ← field nested
    if ← acceptIf (!pending) (accept ",") then
      let (texts, pending) ← angleFieldsUpTo nested n
      return (text :: texts, pending)
    return ([text], pending)

def record (nested : Parser Nested) : Parser Nested := do
  if ← accept "<" then
    let (fields, pending) ← angleFieldsUpTo nested (← bound)
    return (.composite "STRUCT" "<" fields ">", ← closeAngle pending)
  return (.plain "STRUCT", false)

def namedField (nested : Parser Nested) : Parser String := do
  let n ← name
  return n.render ++ " " ++ (← whole nested).render

def compositeType? (nested : Parser Nested) (keyword : String) (d : Dialect) :
    Option (Parser Nested) :=
  let closed (keyword : String) (arguments : Parser (List String)) : Parser Nested := do
    return (.composite keyword "(" (← inParens arguments) ")", false)
  let one (keyword : String) : Parser Nested := closed keyword do
    return [(← whole nested).render]
  match keyword, d with
  | "ARRAY", .snowflake => some (return (.plain keyword, false))
  | "ARRAY", _ => some do
    demand "<"
    let (element, pending) ← nested
    return (.composite keyword "<" [element.render] ">", ← closeAngle pending)
  | "STRUCT", .duckDb => some (closed keyword (items (namedField nested)))
  | "STRUCT", .generic => some (record nested)
  | "UNION", .duckDb | "UNION", .generic => some (closed keyword (items (namedField nested)))
  | "NULLABLE", .generic => some (one "Nullable")
  | "LOWCARDINALITY", .generic => some (one "LowCardinality")
  | "NESTED", .generic => some (closed "Nested" (items (namedField nested)))
  | "TUPLE", .generic => some (closed "Tuple" (items do return (← field nested).1))
  | "MAP", .generic => some <| closed "Map" do
    let key ← whole nested
    demand ","
    return [key.render, (← whole nested).render]
  | "TABLE", _ => some do
    if ← isSymbol "(" then closed keyword (items (namedField nested))
    else return (.plain keyword, false)
  | _, _ => none

/-! ## All types -/

def customType : Parser DataType := do
  let n ← dottedName
  return .custom n (← modifiers)

/-- The type that a word starts, given the parser of the types in it. -/
def typeOfWord (nested : Parser Nested) (text : String) : Parser Nested := do
  let d := (← read).dialect
  let keyword := Keyword.ofText text
  match compositeType? nested keyword d with
  | some p => skip; p
  | none =>
    match simpleType? keyword d with
    | some p => skip; return (← p, false)
    | none =>
      if ← acceptWords ["ANY", "TYPE"] then return (.plain "ANY TYPE", false)
      return (← customType, false)

/-- A type in which others nest at most `n` deep. -/
def typeWithin : Nat → Parser Nested
  | 0 => throw .tooDeep
  | n + 1 => do
    let (t, pending) ← match ← peek with
      | some (.word text none) => typeOfWord (typeWithin n) text
      | some (.word _ _) => do pure (← customType, false)
      | _ => unexpected "a data type name"
    if ← inDialect [.generic, .postgreSql, .duckDb] then
      return (← bracketsUpTo (← bound) t, pending)
    return (t, pending)

def dataType : Parser DataType := do whole (typeWithin (← bound))

end NormalForms.Sql.Parser
