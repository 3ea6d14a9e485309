import Mathlib.Data.List.Nodup
import WildcardDiff.Proofs.Settings.Layers

/-!
# Values put into trees

Putting a value at a path changes what stands at that path and below it, and nothing
else. It fails exactly where something else than a mapping is on the way. A tree whose
mappings all have entries is determined by its leaves: two such trees with the same
leaves differ at most in the order of their entries.
-/

namespace WildcardDiff

/-! ## Entries -/

namespace Entries

theorem get?_put (entries : Entries) (name other : String) (value : Value) :
    get? (put entries (.text name) value) (.text other) =
      if name = other then some value else get? entries (.text other) := by
  induction entries with
  | nil => simp [put, get?_cons]
  | cons entry entries inductionHypothesis =>
      rw [put]
      by_cases named : entry.1.same (.text name) = true
      · have key : entry.1 = .text name := Key.same_text_iff.mp named
        rw [if_pos named, get?_cons, get?_cons, key, Key.same_text]
        by_cases same : name = other <;> simp [same]
      · rw [if_neg named, get?_cons, get?_cons, inductionHypothesis]
        by_cases same : name = other
        · rw [← same, if_neg named, if_pos rfl, if_pos rfl]
        · rw [if_neg same, if_neg same]

/-- Setting the value of a key adds at most that key. -/
theorem mem_keys_put_iff {entries : Entries} {name : String} {value : Value} {key : Key} :
    key ∈ (put entries (.text name) value).map (·.1) ↔
      key = .text name ∨ key ∈ entries.map (·.1) := by
  induction entries with
  | nil => simp [put]
  | cons entry entries inductionHypothesis =>
      rw [put]
      split
      · rename_i named
        have own : entry.1 = .text name := Key.same_text_iff.mp named
        simp [own]
      · rw [List.map_cons, List.mem_cons, inductionHypothesis, List.map_cons,
          List.mem_cons]
        exact or_left_comm

theorem nodup_keys_put
    {entries : Entries}
    (distinct : (entries.map (·.1)).Nodup)
    (name : String)
    (value : Value) :
    ((put entries (.text name) value).map (·.1)).Nodup := by
  induction entries with
  | nil => exact List.nodup_singleton _
  | cons entry entries inductionHypothesis =>
      obtain ⟨absent, distinct⟩ := List.nodup_cons.mp distinct
      rw [put]
      split
      · exact List.nodup_cons.mpr ⟨absent, distinct⟩
      · rename_i named
        refine List.nodup_cons.mpr ⟨?_, inductionHypothesis distinct⟩
        rw [mem_keys_put_iff]
        rintro (own | present)
        · exact named (Key.same_text_iff.mpr own)
        · exact absent present

/-- An entry of a mapping with a new value is the new one or was there before. -/
theorem mem_put
    {entries : Entries}
    {key : Key}
    {value : Value}
    {entry : Key × Value}
    (present : entry ∈ put entries key value) :
    entry.2 = value ∨ entry ∈ entries := by
  induction entries with
  | nil =>
      obtain rfl := List.mem_singleton.mp present
      exact .inl rfl
  | cons first entries inductionHypothesis =>
      rw [put] at present
      split at present
      · rcases List.mem_cons.mp present with rfl | present
        · exact .inl rfl
        · exact .inr (List.mem_cons_of_mem _ present)
      · rcases List.mem_cons.mp present with rfl | present
        · exact .inr List.mem_cons_self
        · exact (inductionHypothesis present).imp_right (List.mem_cons_of_mem _)

/-- What is found under a name is an entry of the mapping. -/
theorem mem_of_get?
    {entries : Entries}
    {name : String}
    {value : Value}
    (found : get? entries (.text name) = some value) :
    (.text name, value) ∈ entries := by
  obtain ⟨⟨key, _⟩, first, rfl⟩ := Option.map_eq_some_iff.mp found
  have named : key.same (.text name) = true := by simpa using List.find?_some first
  obtain rfl := Key.same_text_iff.mp named
  exact List.mem_of_find?_eq_some first

/-- An entry of a mapping is found under its name if all keys differ. -/
theorem get?_of_mem
    {entries : Entries}
    (distinct : (entries.map (·.1)).Nodup)
    {name : String}
    {value : Value}
    (present : (.text name, value) ∈ entries) :
    get? entries (.text name) = some value := by
  induction entries with
  | nil => cases present
  | cons entry entries inductionHypothesis =>
      obtain ⟨absent, distinct⟩ := List.nodup_cons.mp distinct
      rw [get?_cons]
      rcases List.mem_cons.mp present with rfl | present
      · simp
      · rw [if_neg]
        · exact inductionHypothesis distinct present
        · intro named
          exact absent (List.mem_map.mpr ⟨_, present, (Key.same_text_iff.mp named).symm⟩)

/-- Setting the value that a name has already changes nothing. -/
theorem put_of_get?
    {entries : Entries}
    {name : String}
    {value : Value}
    (found : get? entries (.text name) = some value) :
    put entries (.text name) value = entries := by
  induction entries with
  | nil => cases found
  | cons entry entries inductionHypothesis =>
      rw [get?_cons] at found
      rw [put]
      split at found
      · rename_i named
        obtain rfl := Option.some.inj found
        rw [if_pos named]
      · rename_i other
        rw [if_neg other, inductionHypothesis found]

end Entries

namespace Value

/-! ## Putting a value at a path -/

/-- A mapping that is created on the way has nothing on it. -/
theorem not_blocks_empty (path : Settings.Path) : ¬empty.Blocks path := by
  rintro ⟨front, -, -, found, leads, scalar⟩
  cases front with
  | nil =>
      obtain rfl := Option.some.inj ((at?_nil _).symm.trans leads)
      cases scalar
  | cons name front => cases leads

/-- A mapping has something else on the way exactly if what it has under the first name,
or else creates there, has. -/
theorem blocks_mapping_cons_iff_getD
    {entries : Entries}
    {name : String}
    {path : Settings.Path} :
    (mapping entries).Blocks (name :: path) ↔
      ((Entries.get? entries (.text name)).getD .empty).Blocks path := by
  rw [blocks_mapping_cons_iff]
  cases Entries.get? entries (.text name) with
  | none => simpa using not_blocks_empty path
  | some value => simp

section

variable {tree value : Value} {path : Settings.Path}

theorem write_nil (tree value : Value) : tree.write [] value = ⟨value, none⟩ := by
  cases tree <;> rfl

/-- Where no step can be taken, the tree stays as it is. -/
theorem write_of_not_mapping
    (scalar : tree.isMapping = false)
    (name : String)
    (path : Settings.Path)
    (value : Value) :
    (tree.write (name :: path) value).left = tree ∧
      (tree.write (name :: path) value).failure.isSome = true := by
  cases tree with
  | mapping entries => cases scalar
  | _ => cases path <;> exact ⟨rfl, rfl⟩

/-- Writing stops early exactly if something else than a mapping is on the way. -/
theorem isSome_failure_write_iff :
    (tree.write path value).failure.isSome = true ↔ tree.Blocks path := by
  induction path generalizing tree with
  | nil =>
      rw [write_nil]
      exact iff_of_false Bool.false_ne_true tree.not_blocks_nil
  | cons name path inductionHypothesis =>
      cases kind : tree.isMapping with
      | false =>
          exact iff_of_true (write_of_not_mapping kind name path value).2
            (blocks_of_not_mapping kind name path)
      | true =>
          obtain ⟨entries, rfl⟩ := exists_entries kind
          rw [write, blocks_mapping_cons_iff_getD, ← inductionHypothesis]

/-- What stopped early has created nothing. -/
theorem left_write_of_blocks (blocks : tree.Blocks path) (value : Value) :
    (tree.write path value).left = tree := by
  induction path generalizing tree with
  | nil => exact absurd blocks tree.not_blocks_nil
  | cons name path inductionHypothesis =>
      cases kind : tree.isMapping with
      | false => exact (write_of_not_mapping kind name path value).1
      | true =>
          obtain ⟨entries, rfl⟩ := exists_entries kind
          obtain ⟨inner, found, inside⟩ := blocks_mapping_cons_iff.mp blocks
          rw [write, found, Option.getD_some]
          simp only [inductionHypothesis inside, Entries.put_of_get? found]

end

/-! ## Leaves -/

/-- Whether a path of a tree leads to a value that is no mapping. -/
def HasLeaf (tree : Value) (path : Settings.Path) (leaf : Value) : Prop :=
  tree.at? path = some leaf ∧ leaf.isMapping = false

theorem hasLeaf_nil_iff {tree leaf : Value} :
    tree.HasLeaf [] leaf ↔ tree = leaf ∧ leaf.isMapping = false := by
  rw [HasLeaf, at?_nil, Option.some.injEq]

theorem not_hasLeaf_mapping_nil (entries : Entries) (leaf : Value) :
    ¬(mapping entries).HasLeaf [] leaf := by
  rw [hasLeaf_nil_iff]
  rintro ⟨rfl, scalar⟩
  cases scalar

theorem hasLeaf_mapping_cons_iff
    {entries : Entries}
    {name : String}
    {path : Settings.Path}
    {leaf : Value} :
    (mapping entries).HasLeaf (name :: path) leaf ↔
      ∃ value, Entries.get? entries (.text name) = some value ∧
        value.HasLeaf path leaf := by
  simp only [HasLeaf, at?, Option.bind_eq_some_iff]
  constructor
  · rintro ⟨⟨value, found, leads⟩, scalar⟩
    exact ⟨value, found, leads, scalar⟩
  · rintro ⟨value, found, leads, scalar⟩
    exact ⟨⟨value, found, leads⟩, scalar⟩

theorem not_hasLeaf_empty
    (path : Settings.Path)
    (leaf : Value) :
    ¬empty.HasLeaf path leaf := by
  cases path with
  | nil => exact not_hasLeaf_mapping_nil [] leaf
  | cons name path =>
      rw [empty, hasLeaf_mapping_cons_iff]
      rintro ⟨value, found, -⟩
      cases found

/-- A leaf of what a mapping has under a name, or else creates there, is one of the
mapping. -/
theorem hasLeaf_getD_iff
    {entries : Entries}
    {name : String}
    {path : Settings.Path}
    {leaf : Value} :
    ((Entries.get? entries (.text name)).getD .empty).HasLeaf path leaf ↔
      (mapping entries).HasLeaf (name :: path) leaf := by
  rw [hasLeaf_mapping_cons_iff]
  cases Entries.get? entries (.text name) with
  | none => simpa using not_hasLeaf_empty path leaf
  | some value => simp

/-- A leaf put at a path takes the place of whatever stood there and below; all other
leaves stay. -/
theorem hasLeaf_left_write_iff
    {tree value leaf : Value}
    {path other : Settings.Path}
    (scalar : value.isMapping = false)
    (free : ¬tree.Blocks path) :
    (tree.write path value).left.HasLeaf other leaf ↔
      other = path ∧ leaf = value ∨ ¬path <+: other ∧ tree.HasLeaf other leaf := by
  induction path generalizing tree other with
  | nil =>
      rw [write_nil]
      cases other with
      | nil =>
          rw [hasLeaf_nil_iff]
          constructor
          · rintro ⟨rfl, -⟩
            exact .inl ⟨rfl, rfl⟩
          · rintro (⟨-, rfl⟩ | ⟨below, -⟩)
            · exact ⟨rfl, scalar⟩
            · exact absurd List.nil_prefix below
      | cons name other =>
          simp [HasLeaf, at?_cons_of_not_mapping scalar]
  | cons name path inductionHypothesis =>
      cases kind : tree.isMapping with
      | false => exact absurd (blocks_of_not_mapping kind name path) free
      | true =>
          obtain ⟨entries, rfl⟩ := exists_entries kind
          rw [blocks_mapping_cons_iff_getD] at free
          rw [write]
          cases other with
          | nil => simp [not_hasLeaf_mapping_nil]
          | cons first other =>
              rw [hasLeaf_mapping_cons_iff, Entries.get?_put]
              by_cases same : name = first
              · subst same
                simp only [if_pos, Option.some.injEq, exists_eq_left',
                  List.cons_prefix_cons, List.cons.injEq, true_and]
                rw [inductionHypothesis free, hasLeaf_getD_iff]
              · rw [if_neg same, ← hasLeaf_mapping_cons_iff]
                simp [same, Ne.symm same]

/-! ## Trees whose mappings have entries -/

/-- Whether every mapping in a value has entries, under names that differ. -/
inductive Filled : Value → Prop
  | leaf {value : Value} (scalar : value.isMapping = false) : Filled value
  | mapping {entries : Entries}
      (held : entries ≠ [])
      (distinct : (entries.map (·.1)).Nodup)
      (named : ∀ entry ∈ entries, ∃ name, entry.1 = .text name)
      (inside : ∀ entry ∈ entries, Filled entry.2) : Filled (.mapping entries)

/-- A tree whose mappings have entries, or that is empty, is a mapping of such trees. -/
theorem filled_entries
    {entries : Entries}
    (filled : mapping entries = .empty ∨ (mapping entries).Filled) :
    (entries.map (·.1)).Nodup ∧
      (∀ entry ∈ entries, ∃ name, entry.1 = .text name) ∧
      ∀ entry ∈ entries, entry.2.Filled := by
  rcases filled with bare | filled
  · obtain rfl : entries = [] := mapping.inj bare
    simp
  · cases filled with
    | leaf scalar => cases scalar
    | mapping held distinct named inside => exact ⟨distinct, named, inside⟩

/-- A leaf put into a tree whose mappings have entries leaves no mapping without one,
whatever it creates on the way. -/
theorem filled_left_write
    {tree value : Value}
    {path : Settings.Path}
    (filled : tree = .empty ∨ tree.Filled)
    (scalar : value.isMapping = false)
    (free : ¬tree.Blocks path) :
    (tree.write path value).left.Filled := by
  induction path generalizing tree with
  | nil =>
      rw [write_nil]
      exact .leaf scalar
  | cons name path inductionHypothesis =>
      cases kind : tree.isMapping with
      | false => exact absurd (blocks_of_not_mapping kind name path) free
      | true =>
          obtain ⟨entries, rfl⟩ := exists_entries kind
          obtain ⟨distinct, named, inside⟩ := filled_entries filled
          rw [blocks_mapping_cons_iff_getD] at free
          rw [write]
          generalize placed :
            ((Entries.get? entries (.text name)).getD .empty).write path value = inner
          have below : (Entries.get? entries (.text name)).getD .empty = .empty ∨
              ((Entries.get? entries (.text name)).getD .empty).Filled := by
            cases found : Entries.get? entries (.text name) with
            | none => exact .inl rfl
            | some value => exact .inr (inside _ (Entries.mem_of_get? found))
          have key : .text name ∈
              (Entries.put entries (.text name) inner.left).map (·.1) :=
            Entries.mem_keys_put_iff.mpr (.inl rfl)
          refine .mapping ?_ (Entries.nodup_keys_put distinct name inner.left) ?_ ?_
          · intro nothing
            rw [nothing] at key
            cases key
          · intro entry present
            rcases Entries.mem_keys_put_iff.mp (List.mem_map_of_mem present)
              with own | held
            · exact ⟨name, own⟩
            · obtain ⟨other, otherPresent, same⟩ := List.mem_map.mp held
              exact same ▸ named other otherPresent
          · intro entry present
            rcases Entries.mem_put present with own | held
            · rw [own, ← placed]
              exact inductionHypothesis below free
            · exact inside entry held

/-- A tree whose mappings have entries has a leaf. -/
theorem Filled.exists_leaf
    {tree : Value}
    (filled : tree.Filled) :
    ∃ path leaf, tree.HasLeaf path leaf := by
  induction filled with
  | @leaf value scalar => exact ⟨[], value, hasLeaf_nil_iff.mpr ⟨rfl, scalar⟩⟩
  | @mapping entries held distinct named inside inductionHypothesis =>
      obtain ⟨⟨_, value⟩, present⟩ := List.exists_mem_of_ne_nil entries held
      obtain ⟨name, rfl⟩ := named _ present
      obtain ⟨path, leaf, leads⟩ := inductionHypothesis _ present
      exact ⟨name :: path, leaf,
        hasLeaf_mapping_cons_iff.mpr ⟨value, Entries.get?_of_mem distinct present, leads⟩⟩

/-! ## Trees that differ in the order of their entries -/

/-- Whether two values differ at most in the order of the entries of mappings. -/
inductive Alike : Value → Value → Prop
  | same (value : Value) : Alike value value
  | mapping {left right : Entries}
      (keys : (left.map (·.1)).Perm (right.map (·.1)))
      (inside : ∀ key leftValue rightValue, (key, leftValue) ∈ left →
        (key, rightValue) ∈ right →
        Alike leftValue rightValue) : Alike (.mapping left) (.mapping right)

/-- Mappings with the same leaves have the same names. -/
theorem key_mem_of_leaves
    {left right : Entries}
    (filled : (mapping left).Filled)
    (leaves : ∀ path leaf, (mapping left).HasLeaf path leaf →
      (mapping right).HasLeaf path leaf)
    {key : Key}
    (present : key ∈ left.map (·.1)) :
    key ∈ right.map (·.1) := by
  obtain ⟨distinct, named, inside⟩ := filled_entries (.inr filled)
  obtain ⟨⟨_, value⟩, entry, rfl⟩ := List.mem_map.mp present
  obtain ⟨name, rfl⟩ := named _ entry
  obtain ⟨path, leaf, leads⟩ := (inside _ entry).exists_leaf
  have own : (mapping left).HasLeaf (name :: path) leaf :=
    hasLeaf_mapping_cons_iff.mpr ⟨value, Entries.get?_of_mem distinct entry, leads⟩
  obtain ⟨other, found, -⟩ := hasLeaf_mapping_cons_iff.mp (leaves _ _ own)
  exact List.mem_map.mpr ⟨_, Entries.mem_of_get? found, rfl⟩

/-- Two trees whose mappings have entries are alike if they have the same leaves. -/
theorem Filled.alike_of_leaves
    {left right : Value}
    (leftFilled : left.Filled)
    (rightFilled : right.Filled)
    (leaves : ∀ path leaf, left.HasLeaf path leaf ↔ right.HasLeaf path leaf) :
    left.Alike right := by
  induction leftFilled generalizing right with
  | @leaf value scalar =>
      have own : right.HasLeaf [] value :=
        (leaves [] value).mp (hasLeaf_nil_iff.mpr ⟨rfl, scalar⟩)
      obtain ⟨rfl, -⟩ := hasLeaf_nil_iff.mp own
      exact .same right
  | @mapping entries held distinct named inside inductionHypothesis =>
      have leftFilled : (Value.mapping entries).Filled :=
        .mapping held distinct named inside
      cases rightFilled with
      | leaf scalar =>
          have own := (leaves [] right).mpr (hasLeaf_nil_iff.mpr ⟨rfl, scalar⟩)
          exact absurd own (not_hasLeaf_mapping_nil entries right)
      | @mapping others otherHeld otherDistinct otherNamed otherInside =>
          have rightFilled : (Value.mapping others).Filled :=
            .mapping otherHeld otherDistinct otherNamed otherInside
          refine .mapping ?_ ?_
          · rw [List.perm_ext_iff_of_nodup distinct otherDistinct]
            intro key
            exact ⟨key_mem_of_leaves leftFilled fun path leaf => (leaves path leaf).mp,
              key_mem_of_leaves rightFilled fun path leaf => (leaves path leaf).mpr⟩
          · intro key leftValue rightValue leftPresent rightPresent
            obtain ⟨name, rfl⟩ := named _ leftPresent
            apply inductionHypothesis _ leftPresent (otherInside _ rightPresent)
            intro path leaf
            have both := leaves (name :: path) leaf
            simpa [hasLeaf_mapping_cons_iff, Entries.get?_of_mem distinct leftPresent,
              Entries.get?_of_mem otherDistinct rightPresent] using both

end Value
end WildcardDiff
