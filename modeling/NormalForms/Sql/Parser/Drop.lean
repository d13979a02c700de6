import NormalForms.Sql.Parser.Alter
import NormalForms.Sql.Parser.Routine

/-!
# Reading removals

`DROP` takes objects away. Most kinds have the same clauses; those that say where
they belong have clauses of their own.
-/

namespace NormalForms.Sql.Parser

/-! ## Usual objects -/

def droppable : List (List String) := [
  ["TABLE"], ["VIEW"], ["MATERIALIZED", "VIEW"], ["INDEX"], ["ROLE"], ["SCHEMA"], ["DATABASE"],
  ["SEQUENCE"], ["STAGE"], ["TYPE"], ["USER"], ["STREAM"]]

/-- Objects that go, after the words for their kind. A role does not say what
becomes of the objects that depend on it. -/
def dropNames (kind : List String) : Parser Unit := do
  let _ ← ifPresent
  let _ ← items dottedName
  let place ← position?
  let cascade ← acceptWord "CASCADE"
  let restrict ← acceptWord "RESTRICT"
  let purge ← acceptWord "PURGE"
  if cascade && restrict then
    refuse "Cannot specify both CASCADE and RESTRICT in DROP" place
  if kind = ["ROLE"] && (cascade || restrict || purge) then
    refuse "Cannot specify CASCADE, RESTRICT, or PURGE in DROP ROLE" place
  maybe ["ON"] dottedName

/-! ## Other objects -/

def dropTrigger : Parser Unit := do
  unless ← hasTriggers do unexpected "an object type after DROP"
  skip
  let _ ← ifPresent
  let _ ← dottedName
  maybe ["ON"] dottedName
  dropBehavior

def dropSecret (contradictory : Bool) : Parser Unit := do
  let _ ← ifPresent
  let _ ← name
  maybe ["FROM"] (lenient name)
  if contradictory then unexpected "TEMPORARY or PERSISTENT"

/-- An object with clauses of its own that goes, after the word for it; nothing if
no object is called so. -/
def dropObject? (parts : Parts) (keyword : String) : Option (Parser Unit) :=
  match keyword with
  | "FUNCTION" | "PROCEDURE" => some do
    let _ ← ifPresent
    let _ ← items (functionName parts)
    dropBehavior
  | "POLICY" => some do
    let _ ← ifPresent
    let _ ← name
    demandWord "ON"
    let _ ← dottedName
    dropBehavior
  | "CONNECTOR" => some do
    let _ ← ifPresent
    discard name
  | "DOMAIN" => some do
    let _ ← ifPresent
    let _ ← dottedName
    dropBehavior
  | "EXTENSION" => some do
    let _ ← ifPresent
    let _ ← items name
    dropBehavior
  | _ => none

def drop (parts : Parts) : Parser Unit := do
  let temporary ← acceptOnlyIn [.generic, .mySql, .duckDb] ["TEMPORARY"]
  let persistent ← acceptOnlyIn [.duckDb] ["PERSISTENT"]
  if let some kind ← acceptFirst droppable then dropNames kind
  else if ← isWord "TRIGGER" then dropTrigger
  else if ← acceptWord "SECRET" then dropSecret (temporary && persistent)
  else
    match (← peek).bind fun t => t.capitals?.bind (dropObject? parts) with
    | some p =>
      skip
      p
    | none =>
      unexpected <| "CONNECTOR, DATABASE, EXTENSION, FUNCTION, INDEX, POLICY, PROCEDURE, ROLE, " ++
        "SCHEMA, SECRET, SEQUENCE, STAGE, TABLE, TRIGGER, TYPE, VIEW, MATERIALIZED VIEW or USER " ++
        "after DROP"

end NormalForms.Sql.Parser
