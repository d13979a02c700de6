import NormalForms.CommandLine

/-!
# The program

Gathers what a run needs to know of the disk, and does what the run says.
-/

namespace NormalForms.CommandLine

/-- The reason that the system gives for an error. -/
def reasonOf : IO.Error → String
  | .noFileOrDirectory _ code details | .alreadyExists _ code details
  | .permissionDenied _ code details | .inappropriateType _ code details
  | .invalidArgument _ code details | .resourceExhausted _ code details =>
    details ++ " (os error " ++ code.toNat.repr ++ ")"
  | e => toString e

def outcomeOf {α : Type} (action : IO α) : IO (Except String α) := do
  try return .ok (← action)
  catch e => return .error (reasonOf e)

/-- What comes of an action on a path, which has to be a text for the system's
library. -/
def onPath {α : Type} (path : RawText) (action : String → IO α) : IO (Except String α) :=
  match path.text? with
  | some text => outcomeOf (action text)
  | none => return .error "the path is no text"

def readText (path : RawText) : IO (Except String String) := do
  match ← onPath path fun text => IO.FS.readBinFile text with
  | .error reason => return .error reason
  | .ok bytes =>
    match String.fromUTF8? bytes with
    | some text => return .ok text
    | none => return .error "stream did not contain valid UTF-8"

def listNames (dir : RawText) : IO (Except String (List RawText)) :=
  onPath dir fun text => do
    let entries ← (IO.FS.DirEntry.mk text "").root.readDir
    return entries.toList.map fun entry => entry.fileName

/-- What the disk says about the files of a run. -/
def gather (args : Arguments) : IO Disk := do
  let listing ← match args.schemaDir with
    | some dir => listNames dir
    | none => pure (.ok [])
  let disk : Disk :=
    { read := fun _ => .error ""
      list := fun _ => listing
      makeDirectory := fun _ => .ok ()
      write := fun _ => .ok () }
  let paths := (inputPaths disk args).toOption.getD []
  let texts ← paths.mapM fun path => return (path, ← readText path)
  return { disk with read := fun path => (texts.lookup path).getD (.error "") }

/-- Writes files until one cannot be written; says which, and why. -/
def writeAll : List (RawText × String) → IO (Option (RawText × String))
  | [] => return none
  | (path, content) :: rest => do
    match ← onPath path fun text => IO.FS.writeFile text content with
    | .ok () => writeAll rest
    | .error reason => return some (path, reason)

/-- Makes the output directory and writes the artifacts if the run comes to
that, and says how the run ends. -/
def settle (args : Arguments) (disk : Disk) : IO Outcome := do
  let hoped := run Dialect.reader disk args
  if hoped.files.isEmpty then return hoped
  match ← onPath args.outputDir fun text => IO.FS.createDirAll text with
  | .error reason =>
    return run Dialect.reader { disk with makeDirectory := fun _ => .error reason } args
  | .ok () =>
    match ← writeAll hoped.files with
    | none => return hoped
    | some (path, reason) =>
      let answer (p : RawText) : Except String Unit := if p = path then .error reason else .ok ()
      return run Dialect.reader { disk with write := answer } args

end NormalForms.CommandLine

open NormalForms CommandLine in
def main (texts : List String) : IO UInt32 := do
  match Arguments.ofWords (texts.map RawText.ofString) with
  | .error fault =>
    IO.eprintln (fault.message?.getD
      ("usage: [FILE]... [--schema-dir DIR] [--dialect DIALECT] [--output-dir DIR] " ++
        "[--min-form FORM] [--verbose]"))
    return 2
  | .ok args =>
    let outcome ← settle args (← gather args)
    IO.eprint outcome.stderr
    IO.print outcome.stdout
    return outcome.exitCode.toUInt32
