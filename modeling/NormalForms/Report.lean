import NormalForms.Assessment

/-!
# Reports

A report shows an assessment as a Markdown document: the form achieved, a table
of the tables, a table of the findings against each form, and a list of the
notices if there are any. In a cell a vertical bar is written after a
backslash, and line breaks are spaces, so that a row stays a row of its own.
-/

namespace NormalForms.Report

open Text

/-- A text as it stands in a cell. -/
def cell (s : String) : String :=
  String.ofList (s.toList.flatMap fun c => if c = '|' then ['\\', '|'] else [breakToSpace c])

def row (cells : List String) : String := "| " ++ String.intercalate " | " cells ++ " |"

def keyLabel (t : Table) : String :=
  match t.primaryKey? with
  | some columns => String.intercalate ", " columns
  | none => "(none)"

def tableRow (t : Table) : String :=
  row [cell t.name, t.columns.length.repr, cell (keyLabel t), t.foreignKeys.length.repr]

def findingRow (f : Finding) : String :=
  row [cell f.table, cell (f.columnText?.getD ""), f.kind.title, cell f.description,
    cell (f.suggestion?.getD "")]

def tablePart (a : Assessment) : List String :=
  "## Tables" :: "" ::
    if a.schema.tables.isEmpty then ["_No tables found._"]
    else
      "| Table | Columns | Primary key | Foreign keys |" ::
        "|-------|---------|-------------|--------------|" :: a.schema.tables.map tableRow

def formPart (a : Assessment) (form : Form) : List String :=
  "" :: ("## " ++ form.label ++ " Issues") :: "" ::
    if (a.findings form).isEmpty then ["_None._"]
    else
      "| Table | Column(s) | Kind | Finding | Suggestion |" ::
        "|-------|-----------|------|---------|------------|" :: (a.findings form).map findingRow

def noticeItem (n : Notice) : String := "- statement #" ++ n.index.repr ++ ": " ++ n.message

def noticePart (a : Assessment) : List String :=
  if a.notices.isEmpty then []
  else "" :: "## Parse Warnings" :: "" :: a.notices.map noticeItem

/-- The parts of the document that are each followed by a line feed. -/
def parts (a : Assessment) : List String :=
  ["# Schema Normalization Report", "", "**Achieved normal form:** " ++ a.label, ""] ++
    tablePart a ++ Form.all.flatMap (formPart a) ++ noticePart a

def render (a : Assessment) : String := String.join ((parts a).map (· ++ "\n"))

/-! ## Facts -/

@[simp] theorem toList_cell (s : String) : (cell s).toList =
    s.toList.flatMap fun c => if c = '|' then ['\\', '|'] else [breakToSpace c] := by
  simp [cell]

end NormalForms.Report
