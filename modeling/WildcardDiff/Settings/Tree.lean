import WildcardDiff.Text.Basic
import WildcardDiff.Value.Basic

/-!
# Trees of settings

Settings form a tree of mappings, and a path of names leads to each of them. A tree can
be looked up at a path, changed at a path, and merged with another tree that takes
precedence. A mapping stands at one place of one tree alone, so that a change at a path
shows nowhere else.
-/

namespace WildcardDiff
namespace Settings

/-- The names that lead to a setting, from the root of the tree. -/
abbrev Path := List String

/-- The path that a key gives, with a point between its names. -/
def Path.ofKey (key : Text) : Path :=
  (Text.splitAtChar '.' key).map String.ofList

/-- Why a tree cannot be changed or merged. -/
inductive TreeError
  /-- A value that has to be walked through or merged is no mapping. -/
  | notMapping
  /-- The value that an entry has to be put into is no mapping. -/
  | notAssignable
  deriving DecidableEq

/-- What an attempt to change something leaves behind, and why it stopped early, if it
did. -/
structure Attempt (α : Type) where
  left : α
  failure : Option TreeError

end Settings

namespace Value

/-- The value at a path. A null that stands there is a value like any other. -/
def at? : Value -> Settings.Path -> Option Value
  | value, [] => some value
  | .mapping entries, name :: path =>
      (Entries.get? entries (.text name)).bind fun value => value.at? path
  | _, _ :: _ => none

@[simp] theorem at?_nil (value : Value) : value.at? [] = some value := by
  cases value <;> rfl

/-- Put a value at a path name by name. A mapping that is missing on the way is created
before the next step is taken, so an attempt that stops early leaves what it has created
so far. The mappings on the way stand nowhere else, nor does the value after it was put
there: nothing but this tree changes, now or later. -/
def write : Value -> Settings.Path -> Value -> Settings.Attempt Value
  | _, [], value => ⟨value, none⟩
  | .mapping entries, name :: path, value =>
      let inner := ((Entries.get? entries (.text name)).getD .empty).write path value
      ⟨.mapping (Entries.put entries (.text name) inner.left), inner.failure⟩
  | tree, [_], _ => ⟨tree, some .notAssignable⟩
  | tree, _ :: _ :: _, _ => ⟨tree, some .notMapping⟩

mutual

/-- A tree merged with another one that takes precedence. Two mappings are merged entry by
entry; of any other two values the second one counts. -/
def merge : Value -> Value -> Value
  | .mapping base, .mapping override =>
      .mapping (mergeEntries base override ++
        override.filter fun entry => !Entries.has base entry.1)
  | _, override => override

/-- The entries of a mapping, merged with those of the same keys in another one. -/
def mergeEntries : Entries -> Entries -> Entries
  | [], _ => []
  | (key, value) :: rest, override =>
      let merged :=
        match Entries.get? override key with
        | some replacement => merge value replacement
        | none => value
      (key, merged) :: mergeEntries rest override

end

end Value
end WildcardDiff
