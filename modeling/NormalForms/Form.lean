import NormalForms.Text.Blank
import NormalForms.Text.Search

/-!
# Normal forms

The three normal forms, from the weakest to the strongest: every value atomic
and every row named by a key; no column that depends on part of a key; no
column that depends on another column outside the key.
-/

namespace NormalForms

inductive Form where
  | first
  | second
  | third
  deriving DecidableEq, Repr

namespace Form

def all : List Form := [first, second, third]

def label : Form → String
  | first => "1NF"
  | second => "2NF"
  | third => "3NF"

/-- How strong a form is; nothing achieved is weaker than all of them. -/
def rank : Option Form → Nat
  | none => 0
  | some first => 1
  | some second => 2
  | some third => 3

/-- The form a text names, by its label, its number or its word. -/
def ofText? (text : String) : Option Form :=
  match Text.lower (Text.trimmed text) with
  | "1nf" | "1" | "first" => some first
  | "2nf" | "2" | "second" => some second
  | "3nf" | "3" | "third" => some third
  | _ => none

/-- What is said of a text that names no form. -/
def unknownMessage (text : String) : String :=
  "invalid normal form '" ++ text ++ "', expected one of: 1NF, 2NF, 3NF"

/-- What is said of the form achieved. -/
def achievedLabel : Option Form → String
  | none => "Not normalized"
  | some f => f.label

theorem rank_injective {a b : Option Form} (h : rank a = rank b) : a = b := by
  rcases a with _ | (_ | _ | _) <;> rcases b with _ | (_ | _ | _) <;> simp_all [rank]

end Form

end NormalForms
