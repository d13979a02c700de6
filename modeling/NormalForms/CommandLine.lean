import NormalForms.Artifact
import NormalForms.CommandLine.Arguments
import NormalForms.Reading

/-!
# The command line

A run reads the input files and the scripts of a schema directory, assesses the
one script they make, and writes the artifacts, which are named after the first
file if its name is a text. `Disk` is what a run gets to know of the files around
it, and `Outcome` is all it does: an exit code, what it prints, and the files it
writes. How statements are read is left to the reader for the dialect.
-/

namespace NormalForms.CommandLine

open Text

/-- Each answer is what was asked for, or the reason why there is none. -/
structure Disk where
  /-- The text of a file. -/
  read : RawText → Except String String
  /-- The names in a directory, in any order. -/
  list : RawText → Except String (List RawText)
  /-- The outcome of making a directory and those around it. -/
  makeDirectory : RawText → Except String Unit
  /-- The outcome of writing a file into the directory that was made. -/
  write : RawText → Except String Unit

structure Outcome where
  exitCode : Nat
  stdout : String := ""
  stderr : String := ""
  files : List (RawText × String) := []
  deriving DecidableEq, Repr

/-! ## Paths -/

def slash : UInt8 := 0x2F

def period : UInt8 := 0x2E

/-- A name within a directory. -/
def joinPath (dir name : RawText) : RawText :=
  if dir.bytes.getLast? = some slash then ⟨dir.bytes ++ name.bytes⟩
  else ⟨dir.bytes ++ slash :: name.bytes⟩

/-- The components of a path but for those that stay in place. -/
def components (path : RawText) : List (List UInt8) :=
  (fields (· == slash) path.bytes).filter fun c => !c.isEmpty && c != [period]

/-- The name that a path ends in; none if it ends above where it started. -/
def fileName? (path : RawText) : Option (List UInt8) :=
  (components path).getLast?.filter fun c => c != [period, period]

/-- A file name without its extension, and the extension after the last period;
a period that leads the name does not count. -/
def splitExtension (name : List UInt8) : List UInt8 × Option (List UInt8) :=
  match name.reverse.dropWhile (· != period) with
  | [] | [_] => (name, none)
  | _ :: stem => (stem.reverse, some (name.drop (stem.length + 1)))

/-- The file name of a path without its extension. -/
def stem? (path : RawText) : Option RawText :=
  (fileName? path).map fun name => ⟨(splitExtension name).1⟩

/-- The stem of a path, if it is a text. -/
def stemText? (path : RawText) : Option String := (stem? path).bind RawText.text?

/-- The name that the artifacts of a run get from its first file. -/
def artifactName (path : RawText) : String := (stemText? path).getD "output"

/-! ## Input -/

def isScriptName (name : RawText) : Bool :=
  (splitExtension name.bytes).2 == some (RawText.ofString "sql").bytes

/-- The scripts of a directory by name, in order. -/
def directoryScripts (dir : RawText) (names : List RawText) : List RawText :=
  ((names.filter isScriptName).mergeSort (fun a b => !(b.bytes < a.bytes))).map (joinPath dir)

/-- The files of a run, or what is said of a directory that cannot be listed. -/
def inputPaths (disk : Disk) (a : Arguments) : Except String (List RawText) :=
  match a.schemaDir with
  | none => .ok a.inputs
  | some dir =>
    match disk.list dir with
    | .ok names => .ok (a.inputs ++ directoryScripts dir names)
    | .error reason => .error ("Error reading schema directory: " ++ reason)

/-- The text of each file, or what is said of the first that cannot be read. -/
def readAll (disk : Disk) : List RawText → Except String (List String)
  | [] => .ok []
  | path :: rest =>
    match disk.read path with
    | .ok text => (readAll disk rest).map (text :: ·)
    | .error reason => .error ("Error reading " ++ path.display ++ ": " ++ reason)

/-! ## Output -/

def line (s : String) : String := s ++ "\n"

/-- A count of findings, and the findings one by one. -/
def verboseText (files : Nat) (a : Assessment) : String :=
  line ("Parsed " ++ a.schema.tables.length.repr ++ " tables from " ++ files.repr ++
    " file(s), " ++ a.notices.length.repr ++ " statement(s) skipped") ++
  String.join (a.allFindings.map fun f =>
    line ("[" ++ f.form.label ++ "] " ++ f.table ++ "." ++ f.columnText?.getD "*" ++ ": " ++
      f.description))

def summary (a : Assessment) : String :=
  line ("Achieved normal form: " ++ a.label) ++
  String.join (Form.all.map fun form =>
    line (form.label ++ " issues: " ++ (a.findings form).length.repr))

/-- Does an assessment fall short of the form that was asked for? -/
def fallsShort (a : Assessment) : Option Form → Bool
  | none => false
  | some form => Form.rank a.achieved < Form.rank (some form)

/-! ## Runs -/

def failure (stderr : String) : Outcome := { exitCode := 2, stderr }

/-- The artifacts of a run with their paths, if they may be written. -/
def artifacts (disk : Disk) (args : Arguments) (paths : List RawText) (a : Assessment) :
    Except Artifact.WriteFault (List (RawText × String)) := do
  let name := (paths.head?.map artifactName).getD "output"
  let files ← Artifact.write (disk.makeDirectory args.outputDir) name a
  return files.map fun f => (joinPath args.outputDir f.1, f.2)

/-- The end of a run that has made an assessment. The artifacts in front of one
that cannot be written stay. -/
def conclude (disk : Disk) (args : Arguments) (paths : List RawText) (a : Assessment) :
    Outcome :=
  let stderr := if args.verbose then verboseText paths.length a else ""
  let broken (fault : Artifact.WriteFault) : Outcome :=
    failure (stderr ++ line ("Error writing output: " ++ fault.message))
  match artifacts disk args paths a with
  | .error fault => broken fault
  | .ok files =>
    match Artifact.firstFault? disk.write files with
    | some fault => { broken fault with files := Artifact.written disk.write files }
    | none =>
      { exitCode := if fallsShort a args.minForm then 1 else 0
        stdout := summary a
        stderr
        files }

/-- A run on accepted arguments, with the reader of each dialect. -/
def run (readers : Dialect → StatementReader) (disk : Disk) (args : Arguments) : Outcome :=
  match inputPaths disk args with
  | .error message => failure (line message)
  | .ok [] => failure (line "No input SQL files provided")
  | .ok paths =>
    match readAll disk paths with
    | .error message => failure (line message)
    | .ok texts =>
      match assessScript (readers args.dialect) (Script.combine texts) with
      | .error fault => failure (line fault.text)
      | .ok a => conclude disk args paths a

end NormalForms.CommandLine
