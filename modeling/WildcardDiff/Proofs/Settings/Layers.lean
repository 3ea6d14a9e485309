import WildcardDiff.Settings.Layers
import WildcardDiff.Proofs.Except
import WildcardDiff.Proofs.Settings.Merge

/-!
# Layers and their merged view

A setting is read from the highest layer that has its path, while the merged view stacks
all layers. The two agree on a path as long as no layer above the one that answers has
something else than a mapping on the way. Such a layer hides the path from the merged
view and not from the reader, who looks further down.
-/

namespace WildcardDiff
namespace Settings

theorem Source.descending_pairwise :
    descending.Pairwise fun higher lower => lower.rank < higher.rank := by
  decide

namespace Layers

variable {layers : Layers} {path : Path}

/-- Whether every source that has a tree has a mapping. -/
def OnlyMappings (layers : Layers) : Prop :=
  ∀ source tree, layers.layer source = some tree → tree.isMapping = true

/-- The trees of sources merged, the highest source first. -/
def stacked (layers : Layers) : List Source → Value
  | [] => .empty
  | source :: lower =>
      match layers.layer source with
      | some tree => (layers.stacked lower).merge tree
      | none => layers.stacked lower

/-- Whether a path is read from where the merged view has it: no source above the one that
answers has something else than a mapping on the way. -/
def Exposes (layers : Layers) (path : Path) : Prop :=
  ∀ value source, layers.find? path = some (value, source) →
    ∀ higher tree, source.rank < higher.rank → layers.layer higher = some tree →
      ¬tree.Blocks path

theorem mergeLayer_eq_ok_iff {source : Source} {lower merged : Value} :
    layers.mergeLayer lower source = .ok merged ↔
      (∀ tree, layers.layer source = some tree → tree.isMapping = true) ∧
        merged = match layers.layer source with
          | some tree => lower.merge tree
          | none => lower := by
  unfold mergeLayer
  cases layers.layer source with
  | none => simpa using eq_comm
  | some tree =>
      cases tree with
      | mapping entries => simpa [Value.isMapping] using eq_comm
      | _ => simp [Value.isMapping]

theorem foldrM_mergeLayer_eq_ok_iff {sources : List Source} {merged : Value} :
    sources.foldrM (fun source lower => layers.mergeLayer lower source) .empty =
      .ok merged ↔
      (∀ source ∈ sources, ∀ tree, layers.layer source = some tree →
        tree.isMapping = true) ∧ merged = layers.stacked sources := by
  induction sources generalizing merged with
  | nil => simpa [stacked, pure, Except.pure] using eq_comm
  | cons source sources inductionHypothesis =>
      rw [List.foldrM_cons, bind_eq_ok_iff, List.forall_mem_cons]
      simp only [inductionHypothesis, mergeLayer_eq_ok_iff]
      constructor
      · rintro ⟨_, ⟨others, rfl⟩, own, same⟩
        exact ⟨⟨own, others⟩, same⟩
      · rintro ⟨⟨own, others⟩, same⟩
        exact ⟨_, ⟨others, rfl⟩, own, same⟩

/-- The merged view exists exactly if all trees are mappings, and stacks them. -/
theorem merged_eq_ok_iff {merged : Value} :
    layers.merged = .ok merged ↔
      layers.OnlyMappings ∧ merged = layers.stacked Source.descending := by
  have every : (∀ source ∈ Source.descending, ∀ tree,
      layers.layer source = some tree → tree.isMapping = true) ↔ layers.OnlyMappings := by
    simp [OnlyMappings, ← Source.reverse_ascending]
  rw [← every, ← foldrM_mergeLayer_eq_ok_iff, ← List.foldlM_reverse]
  rfl

/-- A setting is read from the highest source that has its path. -/
theorem find?_eq_some_iff {value : Value} {source : Source} :
    layers.find? path = some (value, source) ↔
      ∃ above below tree, Source.descending = above ++ source :: below ∧
        layers.layer source = some tree ∧ tree.at? path = some value ∧
        ∀ higher ∈ above, ∀ tree, layers.layer higher = some tree →
          tree.at? path = none := by
  unfold find?
  rw [List.findSome?_eq_some_iff]
  simp only [Option.map_eq_some_iff, Option.bind_eq_some_iff, Prod.mk.injEq,
    Option.map_eq_none_iff, Option.bind_eq_none_iff]
  constructor
  · rintro ⟨above, _, below, split, ⟨_, ⟨tree, held, leads⟩, rfl, rfl⟩, silent⟩
    exact ⟨above, below, tree, split, held, leads, silent⟩
  · rintro ⟨above, below, tree, split, held, leads, silent⟩
    exact ⟨above, source, below, split, ⟨value, ⟨tree, held, leads⟩, rfl, rfl⟩, silent⟩

/-- Sources that do not have a path, and nothing but mappings on the way, leave it to
those below them. -/
theorem at?_stacked_append
    {above : List Source}
    (silent : ∀ higher ∈ above, ∀ tree, layers.layer higher = some tree →
      tree.at? path = none ∧ ¬tree.Blocks path)
    (below : List Source) :
    (layers.stacked (above ++ below)).at? path = (layers.stacked below).at? path := by
  induction above with
  | nil => rfl
  | cons higher above inductionHypothesis =>
      have rest := inductionHypothesis fun other present =>
        silent other (List.mem_cons_of_mem _ present)
      rw [List.cons_append, stacked]
      cases held : layers.layer higher with
      | none => exact rest
      | some tree =>
          obtain ⟨absent, free⟩ := silent higher List.mem_cons_self tree held
          rw [Value.at?_merge free, absent, rest, Option.merge_none_right]

/-- At a path that is exposed, the merged view has the value that is read, merged with
what lies below it. -/
theorem Exposes.at?_merged
    (exposes : layers.Exposes path)
    {merged value : Value}
    (merges : layers.merged = .ok merged)
    (found : layers.get? path = some value) :
    ∃ base : Value, merged.at? path = some (base.merge value) := by
  obtain ⟨⟨_, source⟩, answer, rfl⟩ := Option.map_eq_some_iff.mp found
  obtain ⟨above, below, tree, split, held, leads, silent⟩ := find?_eq_some_iff.mp answer
  obtain ⟨-, rfl⟩ := merged_eq_ok_iff.mp merges
  have ranks := Source.descending_pairwise
  rw [split] at ranks ⊢
  have free : ∀ higher ∈ above, ∀ tree, layers.layer higher = some tree →
      tree.at? path = none ∧ ¬tree.Blocks path := by
    intro higher present other otherHeld
    have outranks : source.rank < higher.rank :=
      (List.pairwise_append.mp ranks).2.2 higher present source List.mem_cons_self
    exact ⟨silent higher present other otherHeld,
      exposes _ source answer higher other outranks otherHeld⟩
  rw [at?_stacked_append free, stacked, held]
  rw [Value.at?_merge (Value.not_blocks_of_at? leads), leads]
  cases (layers.stacked below).at? path with
  | none => exact ⟨.null, rfl⟩
  | some base => exact ⟨base, rfl⟩

end Layers
end Settings
end WildcardDiff
