import NormalForms.Text.Search

/-!
# Lines

A line ends at a carriage return or a line feed, each on its own. `oneLine`
reads both as a space, so that a text can stand inside a line; `lines` cuts a
text at them.
-/

namespace NormalForms.Text

def isLineBreak (c : Char) : Bool := c == '\r' || c == '\n'

def breakToSpace (c : Char) : Char := if isLineBreak c then ' ' else c

/-- `s` with every line break read as a space. -/
def oneLine (s : String) : String := s.map breakToSpace

/-- The lines of `s`, empty ones included. -/
def lines (s : String) : List String := (fields isLineBreak s.toList).map String.ofList

/-! ## Facts -/

@[simp] theorem toList_oneLine (s : String) :
    (oneLine s).toList = s.toList.map breakToSpace := by
  simp [oneLine]

theorem isLineBreak_breakToSpace (c : Char) : isLineBreak (breakToSpace c) = false := by
  unfold breakToSpace
  split
  · rfl
  · simp_all

end NormalForms.Text
