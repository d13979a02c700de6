import NormalForms.Check.TransitiveDependency
import NormalForms.Notice

/-!
# Assessments

An assessment says which normal form a schema achieves, with the findings
against each form. `Schema.assess` checks the forms in order and stops where
one keeps the next from being looked at: a blocking finding against the first
form leaves nothing achieved, any finding against the second leaves the first,
and any finding against the third leaves the second.
-/

namespace NormalForms

structure Assessment where
  schema : Schema
  achieved : Option Form
  first : List Finding
  second : List Finding
  third : List Finding
  notices : List Notice := []
  deriving DecidableEq, Repr

namespace Assessment

/-- The findings listed against a form. -/
def findings (a : Assessment) : Form → List Finding
  | .first => a.first
  | .second => a.second
  | .third => a.third

/-- All findings, from the first form to the third. -/
def allFindings (a : Assessment) : List Finding := Form.all.flatMap a.findings

def hasFindings (a : Assessment) : Bool := Form.all.any fun f => !(a.findings f).isEmpty

def label (a : Assessment) : String := Form.achievedLabel a.achieved

end Assessment

namespace Schema

/-- The findings against the second form that an assessment lists. -/
def secondFindings (s : Schema) : List Finding :=
  if Atomicity.isBlocked s then [] else PartialDependency.findings s

/-- The findings against the third form that an assessment lists. -/
def thirdFindings (s : Schema) : List Finding :=
  if Atomicity.isBlocked s || !(secondFindings s).isEmpty then []
  else Finding.deduplicate (TransitiveDependency.findings s)

/-- The highest form that no finding stands against. -/
def achieved (s : Schema) : Option Form :=
  if Atomicity.isBlocked s then none
  else if !(secondFindings s).isEmpty then some .first
  else if !(thirdFindings s).isEmpty then some .second
  else some .third

def assess (s : Schema) (notices : List Notice) : Assessment where
  schema := s
  achieved := s.achieved
  first := Atomicity.findings s
  second := s.secondFindings
  third := s.thirdFindings
  notices := notices

/-! ## Facts -/

theorem secondFindings_of_isBlocked {s : Schema} (h : Atomicity.isBlocked s = true) :
    s.secondFindings = [] := by
  simp [secondFindings, h]

theorem thirdFindings_of_isBlocked {s : Schema} (h : Atomicity.isBlocked s = true) :
    s.thirdFindings = [] := by
  simp [thirdFindings, h]

theorem thirdFindings_of_secondFindings_ne_nil {s : Schema} (h : s.secondFindings ≠ []) :
    s.thirdFindings = [] := by
  simp [thirdFindings, h]

end Schema

end NormalForms
