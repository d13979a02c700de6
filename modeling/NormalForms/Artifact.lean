import NormalForms.Encoding
import NormalForms.Improvement
import NormalForms.Report
import NormalForms.Text.Raw

/-!
# Artifacts

The three files that an assessment is written to: its JSON, its report and its
improvement script, all named after one output name. The name must be a plain
file name; `NameFault` says what is wrong with it otherwise.
-/

namespace NormalForms.Artifact

open Text

inductive NameFault where
  | blank
  | absolute (name : String)
  | traversal (name : String)
  | separator (name : String)
  deriving DecidableEq, Repr

def NameFault.message : NameFault → String
  | blank => "Output name must not be empty"
  | absolute name => "Invalid output name '" ++ name ++ "': absolute paths are not allowed"
  | traversal name => "Invalid output name '" ++ name ++ "': traversal segments are not allowed"
  | separator name => "Invalid output name '" ++ name ++ "': path separators are not allowed"

/-- What is wrong with an output name; the first fault of several. -/
def nameFault? (name : String) : Option NameFault :=
  if isBlankText name then some .blank
  else if startsWith name "/" then some (.absolute name)
  else if (fields (· == '/') name.toList).any (· == ['.', '.']) then some (.traversal name)
  else if name.toList.any fun c => c == '/' || c == '\\' then some (.separator name)
  else none

inductive WriteFault where
  | name (fault : NameFault)
  /-- The output directory cannot be made. -/
  | directory (reason : String)
  /-- A file cannot be written. -/
  | file (path : RawText) (reason : String)
  deriving DecidableEq, Repr

def WriteFault.message : WriteFault → String
  | name fault => fault.message
  | directory reason => "Failed to create output directory: " ++ reason
  | file path reason => "Failed to write " ++ path.display ++ ": " ++ reason

/-- The names and contents of the files for an assessment. -/
def files (name : String) (a : Assessment) : List (String × String) :=
  [(name ++ "_analysis.json", a.toJson.pretty), (name ++ "_report.md", Report.render a),
    (name ++ "_improvement.sql", Improvement.render a)]

/-- The files to write. The name is looked at before `directory`, the outcome of
making the output directory. -/
def write (directory : Except String Unit) (name : String) (a : Assessment) :
    Except WriteFault (List (String × String)) :=
  match nameFault? name with
  | some fault => .error (.name fault)
  | none =>
    match directory with
    | .error reason => .error (.directory reason)
    | .ok () => .ok (files name a)

/-! ## Files that cannot be written -/

/-- The files in front of the first that cannot be written, going by the answer
for each path. -/
def written (answer : RawText → Except String Unit) (files : List (RawText × String)) :
    List (RawText × String) :=
  files.takeWhile fun f => (answer f.1).isOk

/-- What is wrong with the first file that cannot be written. -/
def firstFault? (answer : RawText → Except String Unit) (files : List (RawText × String)) :
    Option WriteFault :=
  files.findSome? fun f =>
    match answer f.1 with
    | .ok () => none
    | .error reason => some (.file f.1 reason)

end NormalForms.Artifact
