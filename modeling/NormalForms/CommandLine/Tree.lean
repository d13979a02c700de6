import NormalForms.CommandLine

/-!
# Directory trees

A tree of files held in memory: each file with its path, the directories being
those that the paths pass through. A path is followed step by step from where
the run starts, and each step must be taken in a directory. What lies outside
the tree is known only as far as it surrounds it. `Tree.disk` is how a run sees
the tree.
-/

namespace NormalForms.CommandLine

open Text

/-- A way from directory to directory, down to a name, up or in place. -/
abbrev Steps := List (List UInt8)

structure Tree where
  files : List (RawText × ByteArray)
  /-- The directories that are there without a file in them. -/
  directories : List Steps := []

namespace Tree

/-- Why something cannot be done with a path. -/
inductive Fault where
  | missing
  | alreadyThere
  | notDirectory
  | isDirectory
  | nameTooLong
  | notText
  deriving DecidableEq, Repr

def Fault.message : Fault → String
  | missing => "No such file or directory (os error 2)"
  | alreadyThere => "File exists (os error 17)"
  | notDirectory => "Not a directory (os error 20)"
  | isDirectory => "Is a directory (os error 21)"
  | nameTooLong => "File name too long (os error 36)"
  | notText => "stream did not contain valid UTF-8"

/-! ## Paths -/

def isAbsolute (path : RawText) : Bool := path.startsWith "/"

/-- The way down to a path from where the run starts; nothing if it is not in
the tree. -/
def resolve? (path : RawText) : Option Steps :=
  if isAbsolute path then none
  else (components path).foldlM (fun taken c =>
    if c != [period, period] then some (taken ++ [c])
    else if taken.isEmpty then none else some taken.dropLast) []

/-- The plain form of a path in the tree. -/
def plainPath? (path : RawText) : Option RawText :=
  (resolve? path).map fun cs => ⟨[slash].intercalate cs⟩

/-- The steps of a path, also those in place. -/
def steps (path : RawText) : Steps := (fields (· == slash) path.bytes).filter (!·.isEmpty)

/-- The names that a directory can have are short. -/
def isTooLong (name : List UInt8) : Bool := 255 < name.length

/-! ## Places -/

/-- Where a path leads. -/
inductive Place where
  | file (bytes : ByteArray)
  | directory (path : Steps)
  /-- A directory around the tree. -/
  | outside

def file? (t : Tree) (cs : Steps) : Option ByteArray :=
  (t.files.find? fun f => resolve? f.1 == some cs).map Prod.snd

/-- Does a way lead on from `cs`? -/
def leadsOn (cs : Steps) : Option Steps → Bool
  | some longer => cs.isPrefixOf longer && longer != cs
  | none => false

def isDirectory (t : Tree) (cs : Steps) : Bool :=
  cs.isEmpty || t.directories.contains cs || t.files.any fun f => leadsOn cs (resolve? f.1)

def isPlace (t : Tree) (cs : Steps) : Bool := (t.file? cs).isSome || t.isDirectory cs

/-- One step from a place. -/
def step (t : Tree) (place : Place) (c : List UInt8) : Except Fault Place :=
  match place with
  | .file _ => .error .notDirectory
  | .outside => if c = [period] ∨ c = [period, period] then .ok .outside else .error .missing
  | .directory cs =>
    if c = [period] then .ok place
    else if c = [period, period] then .ok (if cs.isEmpty then .outside else .directory cs.dropLast)
    else if isTooLong c then .error .nameTooLong
    else
      match t.file? (cs ++ [c]) with
      | some bytes => .ok (.file bytes)
      | none =>
        if t.isDirectory (cs ++ [c]) then .ok (.directory (cs ++ [c])) else .error .missing

def walk (t : Tree) (fromOutside : Bool) (way : Steps) : Except Fault Place :=
  way.foldlM t.step (if fromOutside then .outside else .directory [])

/-- Where a path leads. A slash at its end is one more step in place. -/
def place (t : Tree) (path : RawText) : Except Fault Place :=
  if 4096 ≤ path.bytes.length then .error .nameTooLong
  else
    t.walk (isAbsolute path)
      (steps path ++ if path.bytes.getLast? = some slash then [[period]] else [])

/-! ## Reading -/

def read (t : Tree) (path : RawText) : Except Fault String := do
  match ← t.place path with
  | .file bytes =>
    match String.fromUTF8? bytes with
    | some text => return text
    | none => throw .notText
  | _ => throw .isDirectory

/-- The names in a directory. Nothing outside the tree is of interest. -/
def list (t : Tree) (path : RawText) : Except Fault (List RawText) := do
  match ← t.place path with
  | .file _ => throw .notDirectory
  | .outside => return []
  | .directory cs =>
    return (t.files.filterMap fun f =>
      match resolve? f.1 with
      | some longer =>
        if cs.isPrefixOf longer then (longer.drop cs.length).head?.map RawText.mk else none
      | none => none).eraseDups

/-! ## Writing -/

/-- The tree with one more directory, for which all steps but the last must lead
to a directory. -/
def makeOne (t : Tree) (way : Steps) : Except Fault Tree := do
  match ← t.walk false way.dropLast, way.getLast? with
  | .file _, _ => throw .notDirectory
  | .directory cs, some c =>
    if c = [period] ∨ c = [period, period] then throw .alreadyThere
    if isTooLong c then throw .nameTooLong
    if t.isPlace (cs ++ [c]) then throw .alreadyThere
    return { t with directories := (cs ++ [c]) :: t.directories }
  | _, _ => throw .alreadyThere

/-- The tree with one more directory, unless that is there already. -/
def provide (t : Tree) (way : Steps) : Except Fault Tree :=
  match t.makeOne way, t.walk false way with
  | .error .alreadyThere, .ok (.directory _) => .ok t
  | made, _ => made

/-- The tree with the first of some directories. If the one around that is
missing, it comes next in the list and is made before. -/
def provideAll (t : Tree) : List Steps → Except Fault Tree
  | [] => .ok t
  | way :: around =>
    match t.provide way with
    | .error .missing => do (← t.provideAll around).provide way
    | made => made

/-- The directories around a path, the narrowest first. Steps in place lead to
none of their own. -/
def around (path : RawText) : List Steps :=
  let cs := components path
  (List.range (cs.length - 1)).reverse.map fun n => cs.take (n + 1)

/-- A directory outside the tree can always be made. -/
def makeDirectory (t : Tree) (path : RawText) : Except Fault Unit :=
  match resolve? path with
  | some _ => (t.provideAll (steps path :: around path)).map fun _ => ()
  | none => .ok ()

/-- The outcome of writing a file where the directory has been made. -/
def write (t : Tree) (path : RawText) : Except Fault Unit :=
  match resolve? path with
  | some cs =>
    if cs.getLast?.any isTooLong then .error .nameTooLong
    else if t.isDirectory cs then .error .isDirectory
    else .ok ()
  | none => .ok ()

def disk (t : Tree) : Disk where
  read path := (t.read path).mapError Fault.message
  list path := (t.list path).mapError Fault.message
  makeDirectory path := (t.makeDirectory path).mapError Fault.message
  write path := (t.write path).mapError Fault.message

end Tree

end NormalForms.CommandLine
