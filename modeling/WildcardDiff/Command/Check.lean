import WildcardDiff.Command.Failure
import WildcardDiff.Command.Invocation

/-!
# Checks before a task

What an invocation asks for is checked before any setting is read: the escape character,
the files that have to exist, and options that do not go together. Then the settings are
loaded, those of the invocation above all others, and checked too.
-/

namespace WildcardDiff
namespace Command

/-- The standard streams for input and output. What their bytes mean is up to the
system. -/
structure Streams where
  input : List UInt8
  /-- The text that the bytes of the input are, if they are one. -/
  decode : List UInt8 -> Option Text
  /-- Whether the output can take a text. -/
  takes : Points -> Bool

/-- What others have written for the program: a reader of YAML, an engine of templates,
and a reader of command lines. -/
structure Libraries where
  reader : Settings.Reader
  engine : Template.Engine
  dashes : Dashes

/-- What a run finds around it. The names of files and the variables are texts, as are the
arguments: bytes that are none are not described. -/
structure Surroundings where
  files : Files
  environment : Settings.Environment
  streams : Streams
  libraries : Libraries
  /-- Whether the settings of all layers can be put together. The system limits how deep
  values are nested that it copies. -/
  canMerge : Settings.Layers -> Bool
  /-- What the clock shows when records are made, from the first record on. -/
  clock : Nat -> Text

/-- The name that stands for standard input. -/
def inputName : Text := ['-']

/-- The file of settings that is loaded whenever it exists. -/
def systemFile : Text := "/etc/globdiff/config.yaml".toList

namespace Surroundings

/-- What a list of arguments asks for. -/
def read (surroundings : Surroundings) (arguments : List Text) : Except Halt Invocation :=
  Invocation.read surroundings.libraries.dashes arguments

/-- Check the length of the escape character. -/
def checkEscape (escape : Option Value) : Except Failure Unit :=
  match escape with
  | none => .ok ()
  | some value => if value.length? = some 1 then .ok () else .error (.escapeLength value)

/-- What stands under a name, if anything does. -/
def lookUp (surroundings : Surroundings) (name : Text) : Except Failure (Option File) :=
  match surroundings.files.find (tidied name) with
  | .ok (_, file) => .ok (some file)
  | .error .tooLong => .error .nameTooLong
  | .error _ => .ok none

/-- The file of settings that an invocation chooses, which has to exist. -/
def configFile (surroundings : Surroundings) (config : Option Value) :
    Except Failure (Option Text) := do
  match config with
  | some (.text name) =>
      let file := name.toList
      if file = [] then
        return none
      match ← surroundings.lookUp file with
      | none => throw (.configMissing file)
      | some .directory => throw (.configNotFile file)
      | some .device => throw (.configNotFile file)
      | some _ => return some file
  | _ => return none

/-- The name of an input file, which has to exist unless it stands for standard input. -/
def inputFile (surroundings : Surroundings) (operand : Value) : Except Failure Text := do
  match operand with
  | .text name =>
      let file := name.toList
      if file = inputName then
        return file
      match ← surroundings.lookUp file with
      | some (.text _) => return file
      | some (.bytes _) => return file
      | _ => throw (.fileMissing file)
  | _ => throw .notAName

/-- Check the operands and options of a task. -/
def checkTask (surroundings : Surroundings) : Task -> Except Failure Unit
  | .matching _ _ => .ok ()
  | .comparing expected actual _ => do
      let expectedFile ← surroundings.inputFile expected
      let actualFile ← surroundings.inputFile actual
      if expectedFile = inputName ∧ actualFile = inputName then
        throw .sameInput
  | .translating _ target capture =>
      if capture && !target.isText "regex" then .error .captureWithoutRegex else .ok ()

/-- Check that the settings of all layers can be put together. -/
def checkDepth (surroundings : Surroundings) (layers : Settings.Layers) :
    Except Failure Unit :=
  if surroundings.canMerge layers then .ok () else .error .tooDeep

/-- Check an invocation, and load the settings for it. -/
def settings (surroundings : Surroundings) (invocation : Invocation) :
    Except Failure Settings.Layers := do
  checkEscape invocation.escape
  let config ← surroundings.configFile invocation.config
  surroundings.checkTask invocation.task
  let loaded ←
    (Settings.Layers.build surroundings.libraries.reader surroundings.files
      (some systemFile)
      config (some surroundings.environment)).mapError .notLoaded
  let layers := loaded.load .cliArgs invocation.tree
  surroundings.checkDepth layers
  (layers.validate Settings.Schema.known).mapError .invalid
  return layers

end Surroundings
end Command
end WildcardDiff
