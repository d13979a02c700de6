import NormalForms.Sql.Name

/-!
# Data types

The types of SQL that have a form of their own, in families by the arguments
they take, and all others as custom types. Known types render in a spelling of
their own, mostly in capitals; custom types keep that of the statement.
-/

namespace NormalForms.Sql

/-- Precision and scale. -/
structure Precision where
  digits : Nat
  scale : Option Int := none
  deriving DecidableEq, Repr

inductive TextLength where
  | max
  | characters (n : Nat) (unit : Option String)
  deriving DecidableEq, Repr

inductive TimeZone where
  | unspecified
  | included
  | excluded
  deriving DecidableEq, Repr

inductive DataType where
  /-- A column may lack a type in some dialects. -/
  | missing
  | plain (keyword : String)
  | sized (keyword : String) (size : Option Nat)
  | integer (keyword : String) (width : Option Nat) (isUnsigned : Bool)
  | numeric (keyword : String) (precision : Option Precision) (isUnsigned : Bool)
  | text (keyword : String) (length : Option TextLength)
  | time (keyword : String) (precision : Option Nat) (zone : TimeZone)
  /-- One or some of several texts, each of which may have a number. -/
  | choice (keyword : String) (values : List (String × Option String))
  /-- A sequence of elements, written with square brackets. -/
  | array (element : DataType) (size : Option Nat)
  /-- A type made of others, which stand between two marks. -/
  | composite (keyword opening : String) (arguments : List String) (closing : String)
  | custom (name : DottedName) (modifiers : List String)
  deriving DecidableEq, Repr

/-- An argument between parentheses, if there is one. -/
def argument : Option String → String
  | some s => "(" ++ s ++ ")"
  | none => ""

def listed (texts : List String) : String := String.intercalate ", " texts

def Precision.render (p : Precision) : String :=
  match p.scale with
  | some s => p.digits.repr ++ "," ++ toString s
  | none => p.digits.repr

def TextLength.render : TextLength → String
  | max => "MAX"
  | characters n (some unit) => n.repr ++ " " ++ unit
  | characters n none => n.repr

def TimeZone.render : TimeZone → String
  | unspecified => ""
  | included => " WITH TIME ZONE"
  | excluded => " WITHOUT TIME ZONE"

namespace DataType

def unsignedMark (isUnsigned : Bool) : String := if isUnsigned then " UNSIGNED" else ""

/-- One value of a choice. -/
def renderValue (value : String × Option String) : String :=
  singleQuoted value.1 ++ (value.2.map (" = " ++ ·)).getD ""

def render : DataType → String
  | missing => ""
  | plain keyword => keyword
  | sized keyword size => keyword ++ argument (size.map Nat.repr)
  | integer keyword width isUnsigned =>
    keyword ++ argument (width.map Nat.repr) ++ unsignedMark isUnsigned
  | numeric keyword precision isUnsigned =>
    keyword ++ argument (precision.map Precision.render) ++ unsignedMark isUnsigned
  | text keyword length => keyword ++ argument (length.map TextLength.render)
  | time keyword precision zone => keyword ++ argument (precision.map Nat.repr) ++ zone.render
  | choice keyword values => keyword ++ "(" ++ listed (values.map renderValue) ++ ")"
  | array element size => element.render ++ "[" ++ (size.map Nat.repr).getD "" ++ "]"
  | composite keyword opening arguments closing =>
    keyword ++ opening ++ listed arguments ++ closing
  | custom name modifiers =>
    name.render ++ if modifiers.isEmpty then "" else "(" ++ listed modifiers ++ ")"

end DataType

end NormalForms.Sql
