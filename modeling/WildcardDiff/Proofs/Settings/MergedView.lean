import WildcardDiff.Proofs.Settings.Layers
import WildcardDiff.Proofs.Text.Pieces
import WildcardDiff.Settings.Setting

/-!
# The merged view path by path

What stands at a path of the merged view is decided by the layers that have the path and
by those that have something else than a mapping on the way. A layer of the second kind
covers the path in all layers below it. The merged view has a path exactly if a layer
has it that is not covered, and it then shows no other scalar than the one that is read.
-/

namespace WildcardDiff
/-- Merging two values gives a scalar only if the second one is that scalar. -/
theorem Value.merge_eq_of_scalar
    {base override : Value}
    (scalar : (base.merge override).isMapping = false) :
    base.merge override = override := by
  apply merge_of_not_mappings
  rintro ⟨isBase, isOverride⟩
  obtain ⟨base, rfl⟩ := exists_entries isBase
  obtain ⟨override, rfl⟩ := exists_entries isOverride
  cases scalar

namespace Settings

/-- Every key has at least one name, if only the empty one. -/
theorem Path.ofKey_ne_nil (key : Text) : Path.ofKey key ≠ [] := by
  unfold Path.ofKey
  rw [ne_eq, List.map_eq_nil_iff]
  exact Text.splitAtChar_ne_nil '.' key

@[simp] theorem Source.mem_descending (source : Source) : source ∈ descending := by
  simp [← reverse_ascending]

/-- The sources in front of a source are those of higher rank. -/
theorem Source.mem_above_iff
    {above below : List Source}
    {source : Source}
    (split : descending = above ++ source :: below)
    (higher : Source) :
    higher ∈ above ↔ source.rank < higher.rank := by
  have ranks := descending_pairwise
  rw [split, List.pairwise_append, List.pairwise_cons] at ranks
  obtain ⟨-, ⟨lower, -⟩, crossing⟩ := ranks
  constructor
  · intro present
    exact crossing higher present source List.mem_cons_self
  · intro outranks
    have listed := mem_descending higher
    rw [split] at listed
    rcases List.mem_append.mp listed with present | present
    · exact present
    · rcases List.mem_cons.mp present with rfl | present
      · exact absurd outranks (Nat.lt_irrefl _)
      · exact absurd outranks (Nat.lt_asymm (lower higher present))

namespace Layers

variable {layers : Layers} {path : Path}

/-- Whether a layer above a source has something else than a mapping on the way along a
path. -/
def Covers (layers : Layers) (source : Source) (path : Path) : Prop :=
  ∃ higher tree, source.rank < higher.rank ∧ layers.layer higher = some tree ∧
    tree.Blocks path

/-- What one more layer on top does to a path of a stack. -/
theorem isSome_at?_stacked_cons {source : Source} {lower : List Source} :
    ((layers.stacked (source :: lower)).at? path).isSome = true ↔
      (∀ tree, layers.layer source = some tree → ¬tree.Blocks path) ∧
        ((∃ tree, layers.layer source = some tree ∧ (tree.at? path).isSome = true) ∨
          ((layers.stacked lower).at? path).isSome = true) := by
  rw [stacked]
  cases layers.layer source with
  | none => simp
  | some tree =>
      by_cases blocks : tree.Blocks path
      · simp [Value.at?_merge_of_blocks blocks, blocks]
      · rw [Value.at?_merge blocks, Option.isSome_merge]
        simp [blocks, or_comm]

/-- A stack has a path exactly if a layer has it above which nothing else than mappings
stand on the way. -/
theorem isSome_at?_stacked (within : path ≠ []) {sources : List Source} :
    ((layers.stacked sources).at? path).isSome = true ↔
      ∃ above source below, sources = above ++ source :: below ∧
        (∃ tree, layers.layer source = some tree ∧ (tree.at? path).isSome = true) ∧
        ∀ higher ∈ above, ∀ tree, layers.layer higher = some tree →
          ¬tree.Blocks path := by
  induction sources with
  | nil =>
      obtain ⟨name, path, rfl⟩ := List.exists_cons_of_ne_nil within
      simp [stacked, Value.empty, Value.at?]
  | cons first sources inductionHypothesis =>
      rw [isSome_at?_stacked_cons, inductionHypothesis]
      constructor
      · rintro ⟨free, leads | ⟨above, source, below, rfl, leads, others⟩⟩
        · exact ⟨[], first, sources, rfl, leads, by simp⟩
        · exact ⟨first :: above, source, below, rfl, leads,
            List.forall_mem_cons.mpr ⟨free, others⟩⟩
      · rintro ⟨above, source, below, split, leads, free⟩
        cases above with
        | nil =>
            obtain ⟨rfl, rfl⟩ := List.cons.inj split
            obtain ⟨tree, held, found⟩ := leads
            refine ⟨?_, .inl ⟨tree, held, found⟩⟩
            rintro other otherHeld
            obtain rfl := Option.some.inj (held.symm.trans otherHeld)
            obtain ⟨value, found⟩ := Option.isSome_iff_exists.mp found
            exact Value.not_blocks_of_at? found
        | cons higher above =>
            obtain ⟨rfl, rfl⟩ := List.cons.inj split
            obtain ⟨freeFirst, others⟩ := List.forall_mem_cons.mp free
            exact ⟨freeFirst, .inr ⟨above, source, below, rfl, leads, others⟩⟩

/-- The merged view has a path exactly if some layer has it that is not covered. -/
theorem isSome_at?_merged
    {merged : Value}
    (merges : layers.merged = .ok merged)
    (within : path ≠ []) :
    (merged.at? path).isSome = true ↔
      ∃ source tree, layers.layer source = some tree ∧ (tree.at? path).isSome = true ∧
        ¬layers.Covers source path := by
  obtain ⟨-, rfl⟩ := merged_eq_ok_iff.mp merges
  rw [isSome_at?_stacked within]
  constructor
  · rintro ⟨above, source, below, split, ⟨tree, held, found⟩, free⟩
    refine ⟨source, tree, held, found, ?_⟩
    rintro ⟨higher, other, outranks, otherHeld, blocks⟩
    exact free higher
      ((Source.mem_above_iff split higher).mpr outranks) other otherHeld blocks
  · rintro ⟨source, tree, held, found, uncovered⟩
    obtain ⟨above, below, split⟩ := List.append_of_mem source.mem_descending
    refine ⟨above, source, below, split, ⟨tree, held, found⟩, ?_⟩
    intro higher present other otherHeld blocks
    have outranks := (Source.mem_above_iff split higher).mp present
    exact uncovered ⟨higher, other, outranks, otherHeld, blocks⟩

/-- A layer that has a path does not outrank the one that answers. -/
theorem rank_le_of_find?
    {value : Value}
    {source other : Source}
    {tree : Value}
    (answer : layers.find? path = some (value, source))
    (held : layers.layer other = some tree)
    (leads : (tree.at? path).isSome = true) :
    other.rank ≤ source.rank := by
  obtain ⟨above, below, _, split, -, -, silent⟩ := find?_eq_some_iff.mp answer
  apply Nat.le_of_not_lt
  intro outranks
  have present := (Source.mem_above_iff split other).mpr outranks
  rw [silent other present tree held] at leads
  cases leads

/-- A path that is covered at the source that answers is missing from the merged view. -/
theorem at?_merged_of_covers
    {merged value : Value}
    {source : Source}
    (merges : layers.merged = .ok merged)
    (within : path ≠ [])
    (answer : layers.find? path = some (value, source))
    (covers : layers.Covers source path) :
    merged.at? path = none := by
  rw [← Option.not_isSome_iff_eq_none, isSome_at?_merged merges within]
  rintro ⟨other, tree, held, leads, uncovered⟩
  obtain ⟨higher, blocking, outranks, blockingHeld, blocks⟩ := covers
  have below := rank_le_of_find? answer held leads
  exact uncovered ⟨higher, blocking, Nat.lt_of_le_of_lt below outranks,
    blockingHeld, blocks⟩

/-- A path that is not covered at the source that answers is exposed. -/
theorem exposes_of_not_covers
    {value : Value}
    {source : Source}
    (answer : layers.find? path = some (value, source))
    (uncovered : ¬layers.Covers source path) :
    layers.Exposes path := by
  intro _ _ other higher tree outranks held blocks
  obtain ⟨rfl, rfl⟩ := Prod.mk.inj (Option.some.inj (answer.symm.trans other))
  exact uncovered ⟨higher, tree, outranks, held, blocks⟩

/-- Where the view shows a scalar, that scalar is read. -/
theorem get?_of_at?_merged
    {merged value : Value}
    (merges : layers.merged = .ok merged)
    (within : path ≠ [])
    (leads : merged.at? path = some value)
    (scalar : value.isMapping = false) :
    layers.get? path = some value := by
  obtain ⟨source, tree, held, found, uncovered⟩ :=
    (isSome_at?_merged merges within).mp (leads ▸ rfl)
  cases answer : layers.find? path with
  | none =>
      have silent := List.findSome?_eq_none_iff.mp answer source source.mem_descending
      simp only [held, Option.bind_some, Option.map_eq_none_iff] at silent
      rw [silent] at found
      cases found
  | some read =>
      obtain ⟨other, highest⟩ := read
      have exposes : layers.Exposes path := by
        apply exposes_of_not_covers answer
        intro covers
        rw [at?_merged_of_covers merges within answer covers] at leads
        cases leads
      have reads : layers.get? path = some other := by
        rw [get?, answer]
        rfl
      obtain ⟨base, shown⟩ := exposes.at?_merged merges reads
      obtain rfl := Option.some.inj (leads.symm.trans shown)
      rw [reads, Value.merge_eq_of_scalar scalar]

/-- A scalar that is read stands in the view, unless it is covered. -/
theorem at?_merged_of_find?
    {merged value : Value}
    {source : Source}
    (merges : layers.merged = .ok merged)
    (answer : layers.find? path = some (value, source))
    (scalar : value.isMapping = false)
    (uncovered : ¬layers.Covers source path) :
    merged.at? path = some value := by
  have reads : layers.get? path = some value := by
    rw [get?, answer]
    rfl
  obtain ⟨base, shown⟩ := (exposes_of_not_covers answer uncovered).at?_merged merges reads
  rw [shown, Value.merge_of_not_mappings (by simp [scalar])]

/-- The merged view and the reader. The view has a key exactly if some layer has it that
is not covered. A scalar of the view is what is read. A scalar that is read stands in
the view, unless a layer above the one that answers covers it; then the view does not
have the key. -/
theorem merged_agrees
    (layers : Layers)
    (mappings : layers.OnlyMappings)
    (key : Text) :
    ∃ merged, layers.merged = .ok merged ∧
      ((merged.at? (Path.ofKey key)).isSome = true ↔
        ∃ source tree, layers.layer source = some tree ∧
          (tree.at? (Path.ofKey key)).isSome = true ∧
          ¬layers.Covers source (Path.ofKey key)) ∧
      (∀ value, merged.at? (Path.ofKey key) = some value → value.isMapping = false →
        layers.get? (Path.ofKey key) = some value) ∧
      ∀ value source, layers.find? (Path.ofKey key) = some (value, source) →
        value.isMapping = false →
        (layers.Covers source (Path.ofKey key) → merged.at? (Path.ofKey key) = none) ∧
          (¬layers.Covers source (Path.ofKey key) →
            merged.at? (Path.ofKey key) = some value) := by
  obtain ⟨merged, merges⟩ : ∃ merged, layers.merged = .ok merged :=
    ⟨_, merged_eq_ok_iff.mpr ⟨mappings, rfl⟩⟩
  have within := Path.ofKey_ne_nil key
  refine ⟨merged, merges, isSome_at?_merged merges within, ?_, ?_⟩
  · intro value leads scalar
    exact get?_of_at?_merged merges within leads scalar
  · intro value source answer scalar
    exact ⟨at?_merged_of_covers merges within answer,
      at?_merged_of_find? merges answer scalar⟩

/-- A user's settings whose section for patterns is empty. -/
def emptied : Layers :=
  initial.load .userConfig (group [(Setting.root, group [("pattern", .null)])])

/-- The default escape character is read through the null above it, which takes the whole
section out of the merged view. -/
theorem merged_agrees_emptied :
    emptied.OnlyMappings ∧
      emptied.find? (Path.ofKey Setting.escapeCharacter.key) =
        some (.text defaultEscape, .compiledDefaults) ∧
      emptied.Covers .compiledDefaults (Path.ofKey Setting.escapeCharacter.key) ∧
      ∃ merged, emptied.merged = .ok merged ∧
        merged.at? (Path.ofKey Setting.escapeCharacter.key) = none := by
  have names : Path.ofKey Setting.escapeCharacter.key = Setting.escapeCharacter.path := by
    decide
  have mappings : emptied.OnlyMappings := by
    intro source tree held
    cases source with
    | compiledDefaults | userConfig =>
        obtain rfl := Option.some.inj held
        rfl
    | systemConfig | environment | cliArgs | runtime => cases held
  have answer : emptied.find? (Path.ofKey Setting.escapeCharacter.key) =
      some (.text defaultEscape, .compiledDefaults) := by
    rw [names]
    rfl
  have covers :
      emptied.Covers .compiledDefaults (Path.ofKey Setting.escapeCharacter.key) := by
    rw [names]
    refine ⟨.userConfig, _, by decide, rfl, [Setting.root, "pattern"], ?_⟩
    exact ⟨⟨["escape_character"], rfl⟩, by decide, .null, rfl, rfl⟩
  obtain ⟨merged, merges, -, -, scalars⟩ :=
    emptied.merged_agrees mappings Setting.escapeCharacter.key
  exact ⟨mappings, answer, covers, merged, merges, (scalars _ _ answer rfl).1 covers⟩

end Layers
end Settings
end WildcardDiff
