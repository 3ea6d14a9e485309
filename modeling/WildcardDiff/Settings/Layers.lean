import WildcardDiff.Settings.Source
import WildcardDiff.Settings.Tree

/-!
# Layers of settings

Every source of settings may hold a tree of its own. A setting is looked up in the trees
one by one, from the highest source to the lowest, and the first tree that has the path
answers. The merged view combines all trees instead, each one taking precedence over those
of lower sources.

No mapping is shared, neither by the trees of two sources nor by two paths of one tree, so
a change to one of them leaves the others as they are. An alias in a file of settings, or
one mapping that is set under two keys, would make two paths lead to the same mapping;
trees like these are not described here.
-/

namespace WildcardDiff
namespace Settings

/-- The trees of settings by source. -/
structure Layers where
  layer : Source -> Option Value

namespace Layers

/-- No settings at all. -/
def empty : Layers := ⟨fun _ => none⟩

/-- Replace the tree of a source. -/
def replace (layers : Layers) (source : Source) (tree : Option Value) : Layers :=
  ⟨fun other => if other = source then tree else layers.layer other⟩

@[simp] theorem layer_replace
    (layers : Layers)
    (source other : Source)
    (tree : Option Value) :
    (layers.replace source tree).layer other =
      if other = source then tree else layers.layer other := rfl

/-- Load a tree for a source. What the source held before is lost. -/
def load (layers : Layers) (source : Source) (tree : Value) : Layers :=
  layers.replace source (some tree)

/-- The value at a path, with the highest source that has one. -/
def find? (layers : Layers) (path : Path) : Option (Value × Source) :=
  Source.descending.findSome? fun source =>
    ((layers.layer source).bind fun tree => tree.at? path).map fun value =>
      (value, source)

/-- The value at a path. -/
def get? (layers : Layers) (path : Path) : Option Value :=
  (layers.find? path).map (·.1)

/-- Merge the tree of one more source, which has to be a mapping. -/
def mergeLayer
    (layers : Layers)
    (merged : Value)
    (source : Source) : Except TreeError Value :=
  match layers.layer source with
  | none => .ok merged
  | some (.mapping entries) => .ok (merged.merge (.mapping entries))
  | some _ => .error .notMapping

/-- The merged tree of all sources. -/
def merged (layers : Layers) : Except TreeError Value :=
  Source.ascending.foldlM layers.mergeLayer .empty

/-- Put a value at a path of the tree of a source, which is created if the source has
none. -/
def write
    (layers : Layers)
    (source : Source)
    (path : Path)
    (value : Value) : Attempt Layers :=
  let changed := ((layers.layer source).getD .empty).write path value
  ⟨layers.load source changed.left, changed.failure⟩

/-- Set the value at a path for a source, unless that fails. -/
def set (layers : Layers) (source : Source) (path : Path) (value : Value) :
    Except TreeError Layers :=
  let changed := layers.write source path value
  match changed.failure with
  | none => .ok changed.left
  | some failure => .error failure

/-- Drop the tree of a source. The defaults stay. -/
def clear (layers : Layers) (source : Source) : Layers :=
  if source = .compiledDefaults then layers else layers.replace source none

/-- Drop the trees of all sources but the defaults. -/
def clearAll (layers : Layers) : Layers :=
  ⟨fun source => if source = .compiledDefaults then layers.layer source else none⟩

end Layers
end Settings
end WildcardDiff
