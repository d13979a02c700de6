import NormalForms.Identifier

/-!
# Names in statements

A name as a statement spells it: its value, and the quote it was written with.
`escaped` doubles the quotes in a text for which that has not been done: a pair
of quotes, and a quote after a backslash, stand as they are.
-/

namespace NormalForms.Sql

/-- `previous` is the character before, unless that is a quote left alone after
a backslash. -/
def escapedAfter (quote : Char) (previous : Option Char) : List Char → List Char
  | [] => []
  | c :: cs =>
    if c = quote then
      if previous = some '\\' then c :: escapedAfter quote previous cs
      else
        match cs with
        | [] => [c, c]
        | d :: ds =>
          if d = quote then c :: d :: escapedAfter quote (some c) ds
          else c :: c :: escapedAfter quote (some c) (d :: ds)
    else c :: escapedAfter quote (some c) cs

def escaped (quote : Char) (s : String) : String :=
  String.ofList (escapedAfter quote none s.toList)

def singleQuoted (s : String) : String := "'" ++ escaped '\'' s ++ "'"

structure Name where
  value : String
  quote : Option Char := none
  deriving DecidableEq, Repr

/-- The name as written; brackets have no escape. -/
def Name.render (n : Name) : String :=
  match n.quote with
  | none => n.value
  | some q =>
    if q = '[' then "[" ++ n.value ++ "]"
    else String.singleton q ++ escaped q n.value ++ String.singleton q

/-- A name with periods in it, such as that of a table in a schema. -/
structure DottedName where
  parts : List Name
  deriving DecidableEq, Repr

def DottedName.render (n : DottedName) : String :=
  String.intercalate "." (n.parts.map Name.render)

end NormalForms.Sql
