import WildcardDiff.ErrorCode
import WildcardDiff.Files.Home
import WildcardDiff.Settings.Environment
import WildcardDiff.Yaml.Fault

/-!
# Loading settings

Settings are loaded from YAML files and from the environment. A file has to hold a
mapping; its tree then replaces what its source held before. The name of a file may
begin with the tilde of a home directory, and two points in it lead to the directory
above even from a directory that is missing.

What a YAML text says is up to a reader. All that is known of it is that it comes to a
value or a fault; of mappings that it gives at two places, each is one of its own.
-/

namespace WildcardDiff
namespace Settings

/-- A reader of YAML texts. -/
abbrev Reader := Text -> Except Yaml.Fault Value

/-- Why the settings of a file cannot be loaded. -/
inductive LoadError
  | notFound (file : Text)
  | malformed (file : Text)
  | unreadable (file : Text)
  | notMapping (file : Text)
  /-- The bytes of the file are no text. -/
  | undecodable
  /-- There is no home directory for the tilde in the name. -/
  | homeless
  /-- The name has a zero character. -/
  | impossibleName
  | nameTooLong
  /-- The file writes a number, a moment or a code point that does not exist. -/
  | nonexistent
  /-- The file writes a number that is too large to be handled at all. -/
  | oversized
  /-- The reader stops for another reason. -/
  | unforeseen (kind : String)
  deriving DecidableEq

namespace LoadError

/-- The code of a failure to load, if it is one that is reported. -/
def code? : LoadError -> Option ErrorCode
  | .notFound _ => some .notFound
  | .malformed _ => some .invalidInput
  | .unreadable _ => some .internalError
  | .notMapping _ => some .invalidInput
  | _ => none

/-- The message on a failure to load, if it is one that is reported. -/
def message? : LoadError -> Option Text
  | .notFound file => some ("Config file not found: ".toList ++ file)
  | .malformed file => some ("YAML parse error in ".toList ++ file)
  | .unreadable file => some ("Error loading config ".toList ++ file)
  | .notMapping file => some ("Invalid config format in ".toList ++ file)
  | _ => none

/-- The failure to load a file with a fault. -/
def ofFault (file : Text) : Yaml.Fault -> LoadError
  | .malformed => .malformed file
  | .nonexistent => .nonexistent
  | .oversized => .oversized
  | .other kind => .unforeseen kind

/-- The failure to find a file. -/
def ofObstacle (file : Text) : Obstacle -> LoadError
  | .impossible => .impossibleName
  | .tooLong => .nameTooLong
  | _ => .notFound file

end LoadError

/-- The settings that a text describes, as those of a file. -/
def treeOfText (reader : Reader) (file content : Text) : Except LoadError Value := do
  let tree ← (reader content).mapError (LoadError.ofFault file)
  if tree.isMapping then return tree else throw (.notMapping file)

/-- The settings that a file holds. -/
def treeOfFile
    (reader : Reader)
    (files : Files)
    (name : Text) : Except LoadError Value := do
  match files.expand? name with
  | none => throw .homeless
  | some expanded =>
      if expanded.contains '\x00' then throw .impossibleName
      let (_, file) ←
        (files.find (resolved expanded)).mapError (LoadError.ofObstacle name)
      match file with
      | .directory => throw (.unreadable name)
      | .bytes _ => throw .undecodable
      | .text content => treeOfText reader name content
      | .device => treeOfText reader name []

/-- Whether a file, and no directory or device, stands under a name with a home
directory in place of its tilde. -/
def isFile (files : Files) (name : Text) : Except LoadError Bool :=
  match files.expand? name with
  | none => .error .homeless
  | some expanded =>
      match files.find (tidied expanded) with
      | .ok (_, file) => .ok (file ≠ .directory && file ≠ .device)
      | .error .tooLong => .error .nameTooLong
      | .error _ => .ok false

namespace Layers

/-- Load the settings of a file for a source. If that fails, nothing changes. -/
def loadFile
    (layers : Layers)
    (reader : Reader)
    (files : Files)
    (name : Text)
    (source : Source) : Except LoadError Layers :=
  (treeOfFile reader files name).map (layers.load source)

/-- The defaults, with the settings of a system file if it is there, of a chosen file,
and of an environment. An empty name chooses no file. -/
def build
    (reader : Reader)
    (files : Files)
    (systemFile chosenFile : Option Text)
    (environment : Option Environment) : Except LoadError Layers := do
  let withSystem ←
    match systemFile.filter (· ≠ []) with
    | some name =>
        if ← isFile files name then initial.loadFile reader files name .systemConfig
        else pure initial
    | none => pure initial
  let withChosen ←
    match chosenFile.filter (· ≠ []) with
    | some name => withSystem.loadFile reader files name .userConfig
    | none => pure withSystem
  match environment with
  | some entries => return withChosen.loadEnvironment entries
  | none => return withChosen

end Layers

/-- The common settings, with a number that tells them from those that were common before,
and the number of those that were loaded as such. -/
structure Common where
  current : Option (Nat × Layers)
  loaded : Nat

namespace Common

/-- No common settings yet. -/
def empty : Common := ⟨none, 0⟩

/-- The common settings. If there are none, the given ones become common. -/
def obtain (common : Common) (load : Except LoadError Layers) :
    Except LoadError (Common × Nat × Layers) :=
  match common.current with
  | some (number, layers) => .ok (common, number, layers)
  | none => do
      let layers ← load
      let number := common.loaded + 1
      return (⟨some (number, layers), number⟩, number, layers)

end Common
end Settings
end WildcardDiff
