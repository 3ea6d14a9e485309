import WildcardDiff.Diff.Analyzer
import WildcardDiff.Settings.Layers

/-!
# The settings

The settings that the program knows, the paths that lead to them, and their defaults.
-/

namespace WildcardDiff

/-- The settings that the program knows. -/
inductive Setting
  | escapeCharacter
  | caseInsensitive
  | cultureInvariant
  | placeholder
  | mismatchHints
  | enhanced
  | logLevel
  | logFile
  deriving DecidableEq

namespace Setting

/-- The name of the tree that holds all settings. -/
def root : String := "globdiff"

/-- The names of a setting's section and of the setting in it. -/
def names : Setting -> String × String
  | .escapeCharacter => ("pattern", "escape_character")
  | .caseInsensitive => ("pattern", "case_insensitive")
  | .cultureInvariant => ("pattern", "culture_invariant")
  | .placeholder => ("diff", "placeholder")
  | .mismatchHints => ("diff", "mismatch_hints")
  | .enhanced => ("diff", "enhanced")
  | .logLevel => ("logging", "level")
  | .logFile => ("logging", "file")

/-- The path to a setting. -/
def path (setting : Setting) : Settings.Path :=
  [root, setting.names.1, setting.names.2]

/-- The key of a setting, with a point between its names. -/
def key (setting : Setting) : Text :=
  Text.join ['.'] (setting.path.map String.toList)

end Setting

namespace Settings

/-- A mapping with texts as keys. -/
def group (entries : List (String × Value)) : Value :=
  .mapping (entries.map fun entry => (.text entry.1, entry.2))

/-- The compiled defaults. -/
def defaults : Value :=
  group [(Setting.root, group [
    ("pattern", group [
      ("escape_character", .text defaultEscape),
      ("case_insensitive", .bool false),
      ("culture_invariant", .bool false)]),
    ("diff", group [
      ("placeholder", .text defaultPlaceholder),
      ("mismatch_hints", .bool true),
      ("enhanced", .bool true)]),
    ("logging", group [
      ("level", .text "WARNING"),
      ("file", .null)])])]

/-- The layers that hold the compiled defaults alone. -/
def Layers.initial : Layers :=
  Layers.empty.load .compiledDefaults defaults

namespace Layers

/-- The value of a setting, or the given one where no source has it. -/
def choose (layers : Layers) (setting : Setting) (absent : Value) : Value :=
  (layers.get? setting.path).getD absent

/-- The options of patterns that the settings choose. -/
def patternOptions (layers : Layers) : Options :=
  .ofChoices (layers.choose .caseInsensitive (.bool false)).isTruthy
    (layers.choose .cultureInvariant (.bool false)).isTruthy

/-- The analyzer that the settings describe. -/
def analyzer (layers : Layers) (threshold : Log.Level) : Analyzer where
  escape := layers.choose .escapeCharacter (.text defaultEscape)
  options := layers.patternOptions
  placeholder := layers.choose .placeholder (.text defaultPlaceholder)
  hints := layers.choose .mismatchHints (.bool true)
  threshold := threshold

end Layers
end Settings
end WildcardDiff
