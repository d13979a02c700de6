import NormalForms.Assessment

/-!
# Improvement scripts

All remedies of an assessment in one script to be reviewed: after two lines
that name the form achieved, the findings against each form that has any, under
a heading of its own. A finding without a remedy is left out.
-/

namespace NormalForms.Improvement

open Text

/-- A text without the blanks at its end. -/
def withoutTrailingBlanks (s : String) : String := String.ofList (trimEnd s.toList)

/-- The remedy of a finding and the comments that lead to it, after an empty
line. -/
def section? (f : Finding) : Option (List String) :=
  match f.remedy? with
  | none => none
  | some remedy =>
    if isBlankText remedy then none
    else
      some ("" :: Remedy.commentLines ("Issue on " ++ f.table ++ ": " ++ f.description) ++
        [withoutTrailingBlanks remedy])

/-- The part of the script about one form. -/
def formPart (a : Assessment) (form : Form) : List String :=
  if (a.findings form).isEmpty then []
  else
    "" :: ("-- " ++ form.label ++ " issues") :: ((a.findings form).filterMap section?).flatten

/-- The parts that are each followed by a line feed. -/
def parts (a : Assessment) : List String :=
  "-- SQL statements to improve schema normalization" ::
    ("-- Current normalization level: " ++ a.label) :: Form.all.flatMap (formPart a)

def render (a : Assessment) : String := String.join ((parts a).map (· ++ "\n"))

end NormalForms.Improvement
