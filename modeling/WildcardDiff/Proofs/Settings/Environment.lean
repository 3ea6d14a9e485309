import Mathlib.Data.List.Induction
import Mathlib.Data.List.Nodup
import WildcardDiff.Settings.Environment
import WildcardDiff.Proofs.Settings.Assignment
import WildcardDiff.Proofs.Text.Pieces

/-!
# The layer of the environment

What the variables of an environment come to does not depend on their order. The value
of a variable stands at the path that its name gives, unless another variable gives a
strict beginning of that path: put first, the other value is in the way, and put later,
it takes the place of all that stands below it. Nothing else stands in the layer.
-/

namespace WildcardDiff
namespace Settings

/-! ## Settings one after the other -/

/-- Whether no setting stands at a strict beginning of a path. -/
def Free (settings : List (Path × Value)) (path : Path) : Prop :=
  ∀ setting ∈ settings, setting.1 <+: path → setting.1 = path

theorem free_cons_iff
    {setting : Path × Value}
    {settings : List (Path × Value)}
    {path : Path} :
    Free (setting :: settings) path ↔
      (setting.1 <+: path → setting.1 = path) ∧ Free settings path :=
  List.forall_mem_cons

theorem not_free_iff {settings : List (Path × Value)} {path : Path} :
    ¬Free settings path ↔
      ∃ setting ∈ settings, setting.1 <+: path ∧ setting.1 ≠ path := by
  simp [Free]

/-- In front of every setting stands one that no other setting hides. -/
theorem exists_free
    {settings : List (Path × Value)}
    {setting : Path × Value}
    (present : setting ∈ settings) :
    ∃ first ∈ settings, first.1 <+: setting.1 ∧ Free settings first.1 := by
  induction length : setting.1.length using Nat.strongRecOn generalizing setting with
  | ind count inductionHypothesis =>
      by_cases free : Free settings setting.1
      · exact ⟨setting, present, List.prefix_rfl, free⟩
      · obtain ⟨shorter, shorterPresent, within, different⟩ := not_free_iff.mp free
        have less : shorter.1.length < count := by
          have unequal : shorter.1.length ≠ setting.1.length := fun same =>
            different (within.eq_of_length same)
          have atMost := within.length_le
          omega
        obtain ⟨first, firstPresent, before, firstFree⟩ :=
          inductionHypothesis _ less shorterPresent rfl
        exact ⟨first, firstPresent, before.trans within, firstFree⟩

/-- Put a setting into a tree, as far as its path can be followed. -/
def place (tree : Value) (setting : Path × Value) : Value :=
  (tree.write setting.1 setting.2).left

/-- Whether a tree has as its leaves the settings that no other one hides, and no mapping
without entries but for itself. -/
structure Holds (tree : Value) (settings : List (Path × Value)) : Prop where
  filled : tree = .empty ∨ tree.Filled
  leaf_iff : ∀ path leaf, tree.HasLeaf path leaf ↔
    (path, leaf) ∈ settings ∧ Free settings path

section

variable {settings others : List (Path × Value)} {tree : Value} {path : Path}

theorem holds_empty : Holds .empty [] where
  filled := .inl rfl
  leaf_iff path leaf := by simpa using Value.not_hasLeaf_empty path leaf

/-- The order of settings does not count. -/
theorem Holds.perm
    (holds : Holds tree settings)
    (order : settings.Perm others) :
    Holds tree others where
  filled := holds.filled
  leaf_iff path leaf := by
    rw [holds.leaf_iff, Free, Free]
    simp only [order.mem_iff]

/-- Something else than a mapping is on the way along a path exactly if a setting stands
at a strict beginning of it. -/
theorem Holds.blocks_iff (holds : Holds tree settings) :
    tree.Blocks path ↔ ¬Free settings path := by
  constructor
  · rintro ⟨front, within, different, leaf, leads, scalar⟩ free
    obtain ⟨present, -⟩ := (holds.leaf_iff front leaf).mp ⟨leads, scalar⟩
    exact different (free _ present within)
  · intro hidden
    obtain ⟨setting, present, within, different⟩ := not_free_iff.mp hidden
    obtain ⟨first, firstPresent, before, firstFree⟩ := exists_free present
    obtain ⟨leads, scalar⟩ :=
      (holds.leaf_iff first.1 first.2).mpr ⟨firstPresent, firstFree⟩
    refine ⟨first.1, before.trans within, ?_, first.2, leads, scalar⟩
    intro same
    rw [same] at before
    exact different (within.eq_of_length_le before.length_le)

/-- A setting that another one hides leaves the tree as it is. -/
theorem Holds.place_of_not_free
    (holds : Holds tree settings)
    {setting : Path × Value}
    (hidden : ¬Free settings setting.1) :
    Holds (place tree setting) (setting :: settings) := by
  have stays : place tree setting = tree :=
    Value.left_write_of_blocks (holds.blocks_iff.mpr hidden) setting.2
  rw [stays]
  refine ⟨holds.filled, fun path leaf => ?_⟩
  rw [holds.leaf_iff, free_cons_iff, List.mem_cons]
  constructor
  · rintro ⟨present, free⟩
    refine ⟨.inr present, fun below => ?_, free⟩
    -- What hides the setting stands in front of the path as well.
    obtain ⟨other, otherPresent, within, different⟩ := not_free_iff.mp hidden
    have same : other.1 = path := free other otherPresent (within.trans below)
    rw [← same] at below
    exact absurd (within.eq_of_length_le below.length_le) different
  · rintro ⟨rfl | present, -, free⟩
    · exact absurd free hidden
    · exact ⟨present, free⟩

/-- A setting that no other one hides takes its place, and hides those below it. -/
theorem Holds.place_of_free
    (holds : Holds tree settings)
    {setting : Path × Value}
    (scalar : setting.2.isMapping = false)
    (new : setting.1 ∉ settings.map (·.1))
    (free : Free settings setting.1) :
    Holds (place tree setting) (setting :: settings) := by
  have passable : ¬tree.Blocks setting.1 := fun blocks => holds.blocks_iff.mp blocks free
  unfold place
  refine ⟨.inr (Value.filled_left_write holds.filled scalar passable),
    fun path leaf => ?_⟩
  rw [Value.hasLeaf_left_write_iff scalar passable, holds.leaf_iff, free_cons_iff,
    List.mem_cons]
  constructor
  · rintro (⟨rfl, rfl⟩ | ⟨apart, present, pathFree⟩)
    · exact ⟨.inl rfl, fun _ => rfl, free⟩
    · exact ⟨.inr present, fun below => absurd below apart, pathFree⟩
  · rintro ⟨rfl | present, beside, pathFree⟩
    · exact .inl ⟨rfl, rfl⟩
    · refine .inr ⟨fun below => ?_, present, pathFree⟩
      exact new (List.mem_map.mpr ⟨_, present, (beside below).symm⟩)

/-- One more setting, at a path of its own, joins those that a tree holds. -/
theorem Holds.place
    (holds : Holds tree settings)
    {setting : Path × Value}
    (scalar : setting.2.isMapping = false)
    (new : setting.1 ∉ settings.map (·.1)) :
    Holds (place tree setting) (setting :: settings) := by
  by_cases free : Free settings setting.1
  · exact holds.place_of_free scalar new free
  · exact holds.place_of_not_free free

/-- Settings at paths of their own, put into a tree one after the other, come to a tree
that holds them. -/
theorem holds_foldl_place
    (scalars : ∀ setting ∈ settings, setting.2.isMapping = false)
    (distinct : (settings.map (·.1)).Nodup) :
    Holds (settings.foldl Settings.place .empty) settings := by
  induction settings using List.reverseRecOn with
  | nil => exact holds_empty
  | append_singleton settings last inductionHypothesis =>
      have order : (last :: settings).Perm (settings ++ [last]) :=
        (List.perm_append_singleton last settings).symm
      have distinct := (order.map (·.1)).nodup_iff.mpr distinct
      obtain ⟨new, distinct⟩ := List.nodup_cons.mp distinct
      have scalars := fun setting present => scalars setting (order.mem_iff.mp present)
      rw [List.foldl_append]
      have before := inductionHypothesis
        (fun setting present => scalars setting (List.mem_cons_of_mem _ present)) distinct
      exact (before.place (scalars last List.mem_cons_self) new).perm order

end

/-! ## The settings of an environment -/

namespace Environment

/-- Whether the name of a variable spells a path: behind the mark of the program stand
in small letters the names of the path, none of them empty, with two underscores between
them. -/
structure Spells (name : String) (path : Path) : Prop where
  held : path ≠ []
  named : ∀ part ∈ path, part ≠ ""
  cut : Text.AreCut '_' (path.map String.toList)
  marked : ∃ rest, name.toList = mark ++ rest ∧
    Text.join "__".toList (path.map String.toList) = Case.lowerText rest

/-- Whether the name of a variable spells a strict beginning of a path. -/
def Hides (name : String) (path : Path) : Prop :=
  ∃ front, Spells name front ∧ front <+: path ∧ front ≠ path

/-- The settings of an environment: the path and the value of every variable that holds
one. -/
def settings (environment : Environment) : List (Path × Value) :=
  environment.filterMap fun entry => (path? entry.1).map fun path => (path, value entry.2)

/-- Whether the names of the variables that bear the mark of the program differ behind
it, in small letters. -/
def Distinct (environment : Environment) : Prop :=
  (environment.filterMap fun entry =>
    (Text.after? mark entry.1.toList).map Case.lowerText).Nodup

theorem isMapping_value (text : Text) : (value text).isMapping = false := by
  unfold value
  dsimp only
  split
  · rfl
  · split
    · rfl
    · split <;> rfl

/-- The path that the rest of a name in small letters gives, if none of its names is
empty. -/
def pathOfRest? (rest : Text) : Option Path :=
  if (Text.splitAtPair '_' rest).all fun part => !part.isEmpty then
    some ((Text.splitAtPair '_' rest).map String.ofList)
  else none

theorem path?_eq (name : String) :
    path? name = ((Text.after? mark name.toList).map Case.lowerText).bind
      pathOfRest? := by
  unfold path?
  cases Text.after? mark name.toList <;> rfl

/-- The names of a path are the pieces of the rest that gives it, and none of them is
empty. -/
theorem pathOfRest?_eq_some_iff {rest : Text} {path : Path} :
    pathOfRest? rest = some path ↔
      Text.splitAtPair '_' rest = path.map String.toList ∧ ∀ part ∈ path, part ≠ "" := by
  have inverse (parts : List Text) (path : Path) :
      parts.map String.ofList = path ↔ parts = path.map String.toList := by
    constructor <;> rintro rfl <;> simp [Function.comp_def]
  rw [pathOfRest?, Option.ite_none_right_eq_some, Option.some.injEq, inverse, and_comm]
  refine and_congr_right fun split => ?_
  rw [split]
  simp

/-- Names that differ give paths that differ. -/
theorem Distinct.nodup_paths
    {environment : Environment}
    (distinct : environment.Distinct) :
    (environment.settings.map (·.1)).Nodup := by
  have paths : environment.settings.map (·.1) =
      (environment.filterMap fun entry =>
        (Text.after? mark entry.1.toList).map Case.lowerText).filterMap pathOfRest? := by
    unfold settings
    rw [List.map_filterMap, List.filterMap_filterMap]
    simp only [Option.map_map, Function.comp_def, Option.map_id', path?_eq]
  rw [paths]
  refine distinct.filterMap fun first second path leads alsoLeads => ?_
  rw [← Text.join_splitAtPair '_' first, ← Text.join_splitAtPair '_' second,
    (pathOfRest?_eq_some_iff.mp leads).1, (pathOfRest?_eq_some_iff.mp alsoLeads).1]

theorem foldl_add (environment : Environment) (tree : Value) :
    environment.foldl add tree = environment.settings.foldl place tree := by
  unfold settings
  rw [List.foldl_filterMap]
  congr 1
  funext tree entry
  unfold add
  cases path? entry.1 <;> rfl

/-- The variables of an environment whose names differ come to a tree that holds their
settings. -/
theorem Distinct.holds
    {environment : Environment}
    (distinct : environment.Distinct) :
    Holds (environment.foldl add .empty) environment.settings := by
  rw [foldl_add]
  refine holds_foldl_place (fun setting present => ?_) distinct.nodup_paths
  obtain ⟨entry, -, found⟩ := List.mem_filterMap.mp present
  obtain ⟨path, -, rfl⟩ := Option.map_eq_some_iff.mp found
  exact isMapping_value entry.2

/-! ## Paths as the names spell them -/

/-- The path that a name gives is the one that it spells. -/
theorem path?_eq_some_iff {name : String} {path : Path} :
    path? name = some path ↔ Spells name path := by
  rw [path?_eq, Option.bind_eq_some_iff]
  constructor
  · rintro ⟨small, found, gives⟩
    obtain ⟨rest, bears, rfl⟩ := Option.map_eq_some_iff.mp found
    obtain ⟨split, named⟩ := pathOfRest?_eq_some_iff.mp gives
    obtain ⟨held, cut, whole⟩ := Text.splitAtPair_eq_iff.mp split
    exact ⟨by simpa using held, named, cut, rest, Text.after?_eq_some_iff.mp bears, whole⟩
  · rintro ⟨held, named, cut, rest, marked, whole⟩
    have bears := Text.after?_eq_some_iff.mpr marked
    have split : Text.splitAtPair '_' (Case.lowerText rest) = path.map String.toList :=
      Text.splitAtPair_eq_iff.mpr ⟨by simpa using held, cut, whole⟩
    exact ⟨_, Option.map_eq_some_iff.mpr ⟨rest, bears, rfl⟩,
      pathOfRest?_eq_some_iff.mpr ⟨split, named⟩⟩

theorem mem_settings_iff {environment : Environment} {path : Path} {leaf : Value} :
    (path, leaf) ∈ environment.settings ↔
      ∃ entry ∈ environment, Spells entry.1 path ∧ value entry.2 = leaf := by
  simp [settings, ← path?_eq_some_iff]

theorem free_settings_iff {environment : Environment} {path : Path} :
    Free environment.settings path ↔ ∀ entry ∈ environment, ¬Hides entry.1 path := by
  constructor
  · rintro free entry present ⟨front, spells, within, different⟩
    have given := mem_settings_iff.mpr ⟨entry, present, spells, rfl⟩
    exact different (free _ given within)
  · rintro free ⟨front, leaf⟩ present within
    obtain ⟨entry, present, spells, -⟩ := mem_settings_iff.mp present
    by_contra different
    exact free entry present ⟨front, spells, within, different⟩

/-- Whether a tree is what the settings of an environment come to: no mapping in it is
without entries, and the leaves are, below the root, the values of those variables of
which no other one hides the path. -/
structure Yields (environment : Environment) (tree : Value) : Prop where
  filled : tree.Filled
  leaf_iff : ∀ path leaf, tree.HasLeaf path leaf ↔
    ∃ rest, path = Setting.root :: rest ∧
      (∃ entry ∈ environment, Spells entry.1 rest ∧ value entry.2 = leaf) ∧
      ∀ entry ∈ environment, ¬Hides entry.1 rest

/-- The leaves in terms of the settings. -/
theorem Yields.leaf_iff_settings
    {environment : Environment}
    {tree : Value}
    (yields : environment.Yields tree)
    (path : Path)
    (leaf : Value) :
    tree.HasLeaf path leaf ↔
      ∃ rest, path = Setting.root :: rest ∧
        (rest, leaf) ∈ environment.settings ∧ Free environment.settings rest := by
  simp only [yields.leaf_iff, mem_settings_iff, free_settings_iff]

theorem hasLeaf_root_iff {tree leaf : Value} {path : Path} :
    (group [(Setting.root, tree)]).HasLeaf path leaf ↔
      ∃ rest, path = Setting.root :: rest ∧ tree.HasLeaf rest leaf := by
  cases path with
  | nil => simpa [group] using Value.not_hasLeaf_mapping_nil _ leaf
  | cons name rest =>
      rw [group, Value.hasLeaf_mapping_cons_iff]
      by_cases same : Setting.root = name
      · simp [Entries.get?_cons, same]
      · simp [Entries.get?_cons, same, Ne.symm same]

theorem filled_root
    {tree : Value}
    (filled : tree.Filled) :
    (group [(Setting.root, tree)]).Filled :=
  .mapping (List.cons_ne_nil _ _) (List.nodup_singleton _) (by simp)
    (by simpa using filled)

/-- A tree that holds the settings of an environment is no leaf, and has entries if
there is a setting. -/
theorem isTruthy_of_holds
    {environment : Environment}
    {tree : Value}
    (holds : Holds tree environment.settings)
    (filled : tree.Filled) :
    tree.isTruthy = true := by
  cases filled with
  | leaf scalar =>
      obtain ⟨present, -⟩ :=
        (holds.leaf_iff [] tree).mp (Value.hasLeaf_nil_iff.mpr ⟨rfl, scalar⟩)
      obtain ⟨entry, -, found⟩ := List.mem_filterMap.mp present
      obtain ⟨path, named, same⟩ := Option.map_eq_some_iff.mp found
      obtain rfl : path = [] := congrArg Prod.fst same
      exact absurd rfl (path?_eq_some_iff.mp named).held
  | @mapping entries held distinct named inside => simpa [Value.isTruthy] using held

/-- Without settings an environment has no tree. -/
theorem tree?_of_settings_eq_nil
    {environment : Environment}
    (nothing : environment.settings = []) :
    environment.tree? = none := by
  unfold tree?
  rw [foldl_add, nothing]
  rfl

/-- With settings an environment has the tree that they come to. -/
theorem Distinct.exists_tree?
    {environment : Environment}
    (distinct : environment.Distinct)
    (something : environment.settings ≠ []) :
    ∃ tree, environment.tree? = some tree ∧ environment.Yields tree := by
  have holds := distinct.holds
  obtain ⟨setting, present⟩ := List.exists_mem_of_ne_nil _ something
  obtain ⟨first, firstPresent, -, firstFree⟩ := exists_free present
  have leaf := (holds.leaf_iff first.1 first.2).mpr ⟨firstPresent, firstFree⟩
  have filled : (environment.foldl add .empty).Filled := by
    refine holds.filled.resolve_left fun bare => ?_
    rw [bare] at leaf
    exact Value.not_hasLeaf_empty first.1 first.2 leaf
  refine ⟨_, if_pos (isTruthy_of_holds holds filled), filled_root filled,
    fun path leaf => ?_⟩
  simp only [hasLeaf_root_iff, holds.leaf_iff, mem_settings_iff, free_settings_iff]

/-- The settings of an environment in another order come to the same tree but for the
order of its entries. -/
theorem Yields.alike
    {environment order : Environment}
    {tree other : Value}
    (yields : environment.Yields tree)
    (otherYields : order.Yields other)
    (permuted : order.settings.Perm environment.settings) :
    other.Alike tree := by
  refine otherYields.filled.alike_of_leaves yields.filled fun path leaf => ?_
  rw [yields.leaf_iff_settings, otherYields.leaf_iff_settings]
  simp only [Free, permuted.mem_iff]

end Environment

namespace Layers

variable (layers : Layers) {environment : Environment}

theorem loadEnvironment_of_tree?
    {tree : Value}
    (found : environment.tree? = some tree) :
    layers.loadEnvironment environment = layers.load .environment tree := by
  unfold loadEnvironment
  rw [found]

theorem loadEnvironment_of_settings_eq_nil (nothing : environment.settings = []) :
    layers.loadEnvironment environment = layers := by
  unfold loadEnvironment
  rw [Environment.tree?_of_settings_eq_nil nothing]

/-- An environment whose names differ loads the same layer in every order of its
variables. The layer has no mapping without entries, and its leaves are the values of
those variables whose path has no strict beginning that another variable gives. Without
such variables nothing is loaded. -/
theorem loadEnvironment_yields (distinct : environment.Distinct) :
    (∀ order : Environment, order.Perm environment →
      Option.Rel Value.Alike ((layers.loadEnvironment order).layer .environment)
        ((layers.loadEnvironment environment).layer .environment)) ∧
    (environment.settings = [] → layers.loadEnvironment environment = layers) ∧
    (environment.settings ≠ [] →
      ∃ tree, layers.loadEnvironment environment = layers.load .environment tree ∧
        environment.Yields tree) := by
  refine ⟨fun order permuted => ?_, layers.loadEnvironment_of_settings_eq_nil, ?_⟩
  · have settingsPermuted : order.settings.Perm environment.settings :=
      permuted.filterMap _
    have orderDistinct : order.Distinct := (permuted.filterMap _).nodup_iff.mpr distinct
    by_cases nothing : environment.settings = []
    · rw [nothing] at settingsPermuted
      rw [loadEnvironment_of_settings_eq_nil layers nothing,
        loadEnvironment_of_settings_eq_nil layers settingsPermuted.eq_nil]
      cases layers.layer .environment with
      | none => exact .none
      | some tree => exact .some (.same tree)
    · have orderSomething : order.settings ≠ [] := fun orderNothing =>
        nothing (List.nil_perm.mp (orderNothing ▸ settingsPermuted))
      obtain ⟨tree, found, yields⟩ := distinct.exists_tree? nothing
      obtain ⟨other, otherFound, otherYields⟩ := orderDistinct.exists_tree? orderSomething
      rw [layers.loadEnvironment_of_tree? found,
        layers.loadEnvironment_of_tree? otherFound]
      exact .some (yields.alike otherYields settingsPermuted)
  · intro something
    obtain ⟨tree, found, yields⟩ := distinct.exists_tree? something
    exact ⟨tree, layers.loadEnvironment_of_tree? found, yields⟩

/-- The value of a variable takes the place of what another one has put below it, in
either order. -/
theorem loadEnvironment_yields_hidden :
    let environment : Environment :=
      [("GLOBDIFF_A__B", ['1']), ("HOME", ['/']), ("GLOBDIFF_A", ['x'])]
    environment.Distinct ∧
      Option.Rel Value.Alike
        ((empty.loadEnvironment environment.reverse).layer .environment)
        ((empty.loadEnvironment environment).layer .environment) ∧
      ∃ tree, empty.loadEnvironment environment = empty.load .environment tree ∧
        environment.Yields tree ∧ tree.HasLeaf ["globdiff", "a"] (.text "x") := by
  intro environment
  have distinct : environment.Distinct := by
    unfold Environment.Distinct
    decide +kernel
  have settings : environment.settings = [(["a", "b"], .int 1), (["a"], .text "x")] := by
    rfl
  obtain ⟨orders, -, loads⟩ := loadEnvironment_yields empty distinct
  obtain ⟨tree, loaded, yields⟩ := loads (by simp [settings])
  refine ⟨distinct, orders _ environment.reverse_perm, tree, loaded, yields, ?_⟩
  rw [yields.leaf_iff_settings, settings]
  exact ⟨["a"], rfl, by simp, by simp [Free]⟩

end Layers
end Settings
end WildcardDiff
