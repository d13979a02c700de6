import NormalForms.Assessment
import NormalForms.Draft
import NormalForms.Script
import NormalForms.Sql.Parser.Statement

/-!
# Reading scripts

A script is read statement by statement, by a reader of single statements. A
statement that the reader does not understand is left out with a notice; only a
reader that breaks down stops the reading.
-/

namespace NormalForms

/-- What keeps a reader from reading a statement. -/
inductive ReadFailure where
  /-- The statement is malformed. -/
  | malformed (message : String)
  /-- The reader has broken down. -/
  | fatal (message : String)
  deriving DecidableEq, Repr

abbrev StatementReader := String → Except ReadFailure (List Sql.Statement)

/-- The reader of a dialect, which never breaks down. -/
def Dialect.reader (d : Dialect) : StatementReader := fun text =>
  (Sql.parse d text).mapError fun e => .malformed e.message

/-- The reader broke down at the statement `index`. -/
structure Breakdown where
  index : Nat
  message : String
  deriving DecidableEq, Repr

namespace Breakdown

def text (b : Breakdown) : String := "statement #" ++ b.index.repr ++ ": " ++ b.message

end Breakdown

/-- An assessment fails for a breakdown alone, which stays its cause. -/
structure AssessmentFault where
  cause : Breakdown
  message : String := cause.text
  told : message = cause.text := by rfl
  deriving DecidableEq, Repr

def AssessmentFault.text (f : AssessmentFault) : String := "Failed to analyze schema: " ++ f.message

namespace Draft

/-- The name of a schema that is read from a script. -/
def scriptSchema : String := "parsed_schema"

/-- Adds what was read of a statement. -/
def take (d : Draft) (index : Nat) (text : String) :
    Except ReadFailure (List Sql.Statement) → Except Breakdown Draft
  | .ok statements => .ok (d.addAll index text statements)
  | .error (.malformed message) => .ok (d.note index text [.unreadable message])
  | .error (.fatal message) => .error ⟨index, message⟩

/-- Adds statements as they were read, the first of which has the given index. -/
def takeAll (d : Draft) (index : Nat) :
    List (String × Except ReadFailure (List Sql.Statement)) → Except Breakdown Draft
  | [] => .ok d
  | (text, outcome) :: rest =>
    match d.take index text outcome with
    | .ok d => takeAll d (index + 1) rest
    | .error b => .error b

/-- The finished draft of statements as they were read. -/
def ofOutcomes (outcomes : List (String × Except ReadFailure (List Sql.Statement))) :
    Except Breakdown Draft :=
  (takeAll (empty scriptSchema) 0 outcomes).map finish

/-- The finished draft of a script. -/
def ofScript (reader : StatementReader) (script : String) : Except Breakdown Draft :=
  ofOutcomes ((Script.statements script).map fun text => (text, reader text))

def assess (d : Draft) : Assessment := d.schema.assess d.notices

end Draft

/-- The assessment of the schema that a script defines. -/
def assessScript (reader : StatementReader) (script : String) :
    Except AssessmentFault Assessment :=
  match Draft.ofScript reader script with
  | .ok d => .ok d.assess
  | .error b => .error { cause := b }

end NormalForms
