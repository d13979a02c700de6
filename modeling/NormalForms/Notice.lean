import NormalForms.Schema.Table

/-!
# Notices

A notice says which statement of a script was skipped, or lost an element, and
why.
-/

namespace NormalForms

inductive Notice.Cause where
  /-- The statement cannot be read; the reader says why. -/
  | unreadable (message : String)
  | rejected (reason : Rejection)
  /-- An `ALTER TABLE` names a table that is not declared. -/
  | unknownTable (name : String)
  deriving DecidableEq, Repr

def Notice.Cause.message : Notice.Cause → String
  | unreadable message => message
  | rejected reason => reason.message
  | unknownTable name => "ALTER TABLE targets unknown table '" ++ name ++ "'"

/-- `index` counts the statements of the script from zero, `statement` is the
text of the one concerned. -/
structure Notice where
  index : Nat
  statement : String
  cause : Notice.Cause
  deriving DecidableEq, Repr

def Notice.message (n : Notice) : String := n.cause.message

end NormalForms
