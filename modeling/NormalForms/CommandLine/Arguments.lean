import NormalForms.Dialect
import NormalForms.Form
import NormalForms.Text.Raw

/-!
# Arguments of the command line

Arguments are input files and options in any order. An option that takes a
value has it in the next argument or after an equals sign; after `--` every
argument is a file. Arguments are raw texts: a file or a directory may have any
name, and the other values must be texts.
-/

namespace NormalForms.CommandLine

structure Arguments where
  inputs : List RawText := []
  schemaDir : Option RawText := none
  dialect : Dialect := .generic
  outputDir : RawText := "normalizer-output"
  minForm : Option Form := none
  verbose : Bool := false
  deriving DecidableEq, Repr

/-- Why arguments are refused: a value that is not one of those an option
takes, or arguments that do not fit together. -/
inductive UsageFault where
  | dialect (value : String)
  | minForm (value : String)
  | misuse
  deriving DecidableEq, Repr

/-- What is said of a value that is refused. -/
def UsageFault.message? : UsageFault → Option String
  | dialect value =>
    some ("error: invalid value '" ++ value ++ "' for '--dialect <DIALECT>': " ++
      Dialect.unknownMessage value)
  | minForm value =>
    some ("error: invalid value '" ++ value ++ "' for '--min-form <MIN_FORM>': " ++
      Form.unknownMessage value)
  | misuse => none

inductive Flag where
  | schemaDir
  | dialect
  | outputDir
  | minForm
  | verbose
  deriving DecidableEq, Repr

def Flag.ofName? : String → Option Flag
  | "--schema-dir" => some schemaDir
  | "--dialect" => some dialect
  | "--output-dir" => some outputDir
  | "--min-form" => some minForm
  | "--verbose" => some verbose
  | _ => none

/-- An argument as it stands: an option with the value after its equals sign,
the mark that only files follow, or a file. -/
inductive Item where
  | flag (f : Flag) (value : Option RawText)
  | unknown
  | filesOnly
  | file (path : RawText)
  deriving DecidableEq, Repr

def equalsSign : UInt8 := 0x3D

/-- An argument up to the first equals sign, and what follows that. -/
def splitValue (word : RawText) : RawText × Option RawText :=
  match word.bytes.dropWhile (· != equalsSign) with
  | [] => (word, none)
  | _ :: value => (⟨word.bytes.takeWhile (· != equalsSign)⟩, some ⟨value⟩)

def Item.ofRaw (word : RawText) : Item :=
  if word = "--" then filesOnly
  else if word.startsWith "--" then
    match (splitValue word).1.text?.bind Flag.ofName? with
    | some f => flag f (splitValue word).2
    | none => unknown
  else if word.startsWith "-" && word != "-" then unknown
  else file word

/-- Gives an option its value. No option is given twice. -/
def Arguments.set (a : Arguments) (seen : List Flag) (value : RawText) (f : Flag) :
    Except UsageFault Arguments :=
  if f ∈ seen then .error .misuse
  else
    match f, value.text? with
    | .schemaDir, _ =>
      if value.isEmpty then .error .misuse else .ok { a with schemaDir := some value }
    | .outputDir, _ =>
      if value.isEmpty then .error .misuse else .ok { a with outputDir := value }
    | .dialect, some text =>
      match Dialect.ofText? text with
      | some d => .ok { a with dialect := d }
      | none => .error (.dialect text)
    | .minForm, some text =>
      match Form.ofText? text with
      | some form => .ok { a with minForm := some form }
      | none => .error (.minForm text)
    | .dialect, none | .minForm, none | .verbose, _ => .error .misuse

def Arguments.addInputs (a : Arguments) (paths : List RawText) : Except UsageFault Arguments :=
  if paths.any RawText.isEmpty then .error .misuse else .ok { a with inputs := a.inputs ++ paths }

/-- Is the next argument an option that there is not? That is noticed before
the value of an option that stands in front of it is looked at. -/
def leadsAstray : List RawText → Bool
  | [] => false
  | word :: _ =>
    match Item.ofRaw word with
    | .unknown | .flag .verbose (some _) => true
    | _ => false

/-- Reads the remaining arguments into `a`; `seen` are the options given. -/
def Arguments.read (a : Arguments) (seen : List Flag) :
    List RawText → Except UsageFault Arguments
  | [] => .ok a
  | word :: rest =>
    match Item.ofRaw word with
    | .file path => do (← a.addInputs [path]).read seen rest
    | .filesOnly => a.addInputs rest
    | .unknown => .error .misuse
    | .flag .verbose none =>
      if .verbose ∈ seen then .error .misuse
      else { a with verbose := true }.read (.verbose :: seen) rest
    | .flag f (some value) => do (← a.set seen value f).read (f :: seen) rest
    | .flag f none =>
      match rest with
      | [] => .error .misuse
      | value :: rest =>
        match Item.ofRaw value with
        | .file _ =>
          if leadsAstray rest then .error .misuse
          else do (← a.set seen value f).read (f :: seen) rest
        | _ => .error .misuse

/-- The arguments of a run. Without a schema directory there must be a file. -/
def Arguments.ofWords (words : List RawText) : Except UsageFault Arguments := do
  let a ← Arguments.read {} [] words
  if a.inputs.isEmpty && a.schemaDir.isNone then .error .misuse else .ok a

end NormalForms.CommandLine
