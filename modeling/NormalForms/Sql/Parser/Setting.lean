import NormalForms.Sql.Parser.Relation

/-!
# Reading settings

A setting is a key with a value: a text, a number, a word, a list of values or
settings of its own. Settings stand in parentheses or go on to the end, and
commas between them may be missing. Places for files have some too.
-/

namespace NormalForms.Sql.Parser

/-! ## Settings -/

/-- The value of a setting; `inner` reads settings in parentheses. -/
def settingValue (inner : Parser Unit) : Parser Unit := do
  match ← peek with
  | some (.string .single _) | some (.number _ _) => discard value
  | some (.word _ _) => if ← isOneOf ["TRUE", "FALSE"] then discard value else skip
  | some (.symbol "(") =>
    if (← attempt (inParens (itemsBefore ")" value))).isNone then inner
  | _ => unexpected "expected option value"

def setting (inner : Parser Unit) : Parser Unit := do
  demand "="
  settingValue inner

/-- Settings up to the end, the closing parenthesis or one of some words, at most
`n`. -/
def settingsUpTo (enclosed : Bool) (ends : List String) (inner : Parser Unit) : Nat → Parser Unit
  | 0 => return
  | n + 1 => do
    if ← isOneOf ends then return
    match ← anyToken with
    | none => return
    | some (.symbol ")") => unless enclosed do unexpected " another option or EOF"
    | some (.symbol ",") => settingsUpTo enclosed ends inner n
    | some (.word _ _) =>
      setting inner
      settingsUpTo enclosed ends inner n
    | some _ => unexpected "another option, EOF, SemiColon, Comma or ')'"

/-- Settings in parentheses, which nest at most `n` deep. -/
def settingsWithin : Nat → Parser Unit
  | 0 => throw .tooDeep
  | n + 1 => do
    demand "("
    settingsUpTo true [] (settingsWithin n) (← bound)

def settings : Parser Unit := do settingsWithin (← bound)

def settingsAfter (keyword : String) : Parser Unit := do
  if ← acceptWord keyword then
    demand "="
    settings

/-! ## Places for files -/

def endOf (t : Located) : Position := ⟨t.position.line, t.position.column + t.token.text.length⟩

/-- The tokens of a part of the name of a place, which touch each other, at most
`n`; `stop` is where the token before ended. -/
def placePartUpTo : Nat → Option Position → Parser Unit
  | 0, _ => return
  | n + 1, stop => do
    match (← get).head? with
    | none => return
    | some t =>
      if stop.any (· != t.position) then return
      match t.token with
      | .symbol "." | .symbol ")" => return
      | .symbol ";" => skip
      | .word _ _ | .number _ _ | .symbol "@" | .symbol "~" | .symbol "%" | .symbol "/"
      | .symbol "+" | .symbol "-" =>
        skip
        placePartUpTo n (endOf t)
      | _ =>
        skip
        unexpected "stage name identifier"

def place : Parser Unit := do
  if ← isSymbol "@" then
    placePartUpTo (← bound) none
    let _ ← many <| after? (isSymbol ".") do
      let dot := (← get).head?.map endOf
      skip
      placePartUpTo (← bound) dot
  else discard dottedName

def placeSettings : Parser Unit := do
  let text (wanted : String) : Parser Unit := do
    match ← anyToken with
    | some (.string .single _) => return
    | _ => unexpected wanted
  if ← acceptWord "URL" then
    demand "="
    text "a URL statement"
  if ← acceptWord "STORAGE_INTEGRATION" then
    demand "="
    skip
  if ← acceptWord "ENDPOINT" then
    demand "="
    text "an endpoint statement"
  settingsAfter "CREDENTIALS"
  settingsAfter "ENCRYPTION"

def createPlace : Parser Unit := do
  let _ ← acceptWords ["IF", "NOT", "EXISTS"]
  let _ ← dottedName
  placeSettings
  settingsAfter "DIRECTORY"
  settingsAfter "FILE_FORMAT"
  settingsAfter "COPY_OPTIONS"
  if ← acceptWord "COMMENT" then
    demand "="
    remark

end NormalForms.Sql.Parser
