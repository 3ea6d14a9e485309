import WildcardDiff.Decimal.Numeral
import WildcardDiff.Named
import WildcardDiff.Settings.Layers
import WildcardDiff.Settings.Setting

/-!
# Settings from the environment

An environment variable whose name starts with the mark of the program holds a setting.
The rest of the name, in small letters, is the path, with two underscores between its
names. A variable is left out if a name of its path is empty, or if another variable has
put a plain value on the way.
-/

namespace WildcardDiff
namespace Settings

/-- The variables of an environment in their order. -/
abbrev Environment := Named Text

namespace Environment

/-- The beginning of the names of variables that hold settings. -/
def mark : Text := "GLOBDIFF_".toList

/-- The path that the name of a variable gives, if the variable holds a setting. -/
def path? (name : String) : Option Path := do
  let rest ← Text.after? mark name.toList
  let names := Text.splitAtPair '_' (Case.lowerText rest)
  if names.all fun part => !part.isEmpty then some (names.map String.ofList) else none

/-- The value that the text of a variable gives: a truth value, a number, or the text. -/
def value (text : Text) : Value :=
  let small := String.ofList (Case.lowerText text)
  if small = "true" ∨ small = "yes" then .bool true
  else if small = "false" ∨ small = "no" then .bool false
  else
    match Numeral.integer? text, Numeral.float? text with
    | some number, _ => .int number
    | none, some number => .float number
    | none, none => .ofText text

/-- Add the setting of a variable to a tree, as far as its path can be followed. -/
def add (tree : Value) (entry : String × Text) : Value :=
  match path? entry.1 with
  | none => tree
  | some path => (tree.write path (value entry.2)).left

/-- The tree of the settings that an environment holds, if it holds any. -/
def tree? (environment : Environment) : Option Value :=
  let settings := environment.foldl add .empty
  if settings.isTruthy then some (group [(Setting.root, settings)]) else none

end Environment

/-- Load the settings of an environment. -/
def Layers.loadEnvironment (layers : Layers) (environment : Environment) : Layers :=
  match environment.tree? with
  | some tree => layers.load .environment tree
  | none => layers

end Settings
end WildcardDiff
