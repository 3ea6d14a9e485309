import WildcardDiff.Settings.Tree

/-!
# Merged trees

What stands at a path of a merged tree. Names are looked up in both mappings, and what
both of them hold is merged in turn. Hence a path leads to what it leads to in either
tree, with one exception: where the tree that takes precedence has something else than a
mapping on the way, the path leads nowhere.
-/

namespace WildcardDiff

theorem Key.same_text_iff {key : Key} {name : String} :
    key.same (.text name) = true ↔ key = .text name := by
  cases key with
  | text other => simp
  | float value => cases whole : value.toInt? <;> simp [same, integer?, whole]
  | _ => simp [same, integer?]

/-! ## Entries -/

namespace Entries

@[simp] theorem get?_nil (key : Key) : get? [] key = none := rfl

theorem get?_cons (entry : Key × Value) (entries : Entries) (key : Key) :
    get? (entry :: entries) key =
      if entry.1.same key then some entry.2 else get? entries key := by
  unfold get?
  rw [List.find?_cons]
  cases entry.1.same key <;> rfl

theorem get?_append (front back : Entries) (key : Key) :
    get? (front ++ back) key = (get? front key).or (get? back key) := by
  unfold get?
  rw [List.find?_append, Option.map_or]

theorem has_eq_isSome_get? (entries : Entries) (key : Key) :
    has entries key = (get? entries key).isSome := by
  induction entries with
  | nil => rfl
  | cons entry entries inductionHypothesis =>
      rw [get?_cons, has, List.any_cons]
      cases entry.1.same key with
      | true => rfl
      | false => simpa [has] using inductionHypothesis

/-- Entries are dropped under a name exactly if the other mapping has the name. -/
theorem get?_filter_has (base override : Entries) (name : String) :
    get? (override.filter fun entry => !has base entry.1) (.text name) =
      if has base (.text name) then none else get? override (.text name) := by
  induction override with
  | nil => simp
  | cons entry override inductionHypothesis =>
      rw [get?_cons, List.filter_cons]
      by_cases same : entry.1.same (.text name) = true
      · have named : entry.1 = .text name := Key.same_text_iff.mp same
        cases held : has base (.text name) with
        | true => simpa [named, held] using inductionHypothesis
        | false => simp [get?_cons, named, held]
      · cases has base entry.1 with
        | true => simpa [same] using inductionHypothesis
        | false => simpa [get?_cons, same] using inductionHypothesis

end Entries

/-! ## Merging -/

namespace Value

theorem exists_entries {value : Value} (kind : value.isMapping = true) :
    ∃ entries, value = mapping entries := by
  cases value with
  | mapping entries => exact ⟨entries, rfl⟩
  | _ => cases kind

/-- Only two mappings are merged; of any other two values the second one counts. -/
theorem merge_of_not_mappings
    {base override : Value}
    (other : ¬(base.isMapping = true ∧ override.isMapping = true)) :
    base.merge override = override := by
  apply merge.eq_2
  rintro _ _ rfl rfl
  exact other ⟨rfl, rfl⟩

theorem get?_mergeEntries (base override : Entries) (name : String) :
    Entries.get? (mergeEntries base override) (.text name) =
      (Entries.get? base (.text name)).map fun value =>
        ((Entries.get? override (.text name)).map value.merge).getD value := by
  induction base with
  | nil => rfl
  | cons entry base inductionHypothesis =>
      rcases entry with ⟨key, value⟩
      rw [mergeEntries, Entries.get?_cons, Entries.get?_cons]
      by_cases same : key.same (.text name) = true
      · obtain rfl : key = .text name := Key.same_text_iff.mp same
        cases Entries.get? override (.text name) <;> simp
      · simpa [same] using inductionHypothesis

/-- Under a name, a merged mapping holds what one of the two mappings holds, or what
both of them hold, merged. -/
theorem get?_merge (base override : Entries) (name : String) :
    Entries.get? (mergeEntries base override ++
        override.filter fun entry => !Entries.has base entry.1) (.text name) =
      Option.merge merge (Entries.get? base (.text name))
        (Entries.get? override (.text name)) := by
  rw [Entries.get?_append, get?_mergeEntries, Entries.get?_filter_has,
    Entries.has_eq_isSome_get?]
  cases Entries.get? base (.text name) with
  | none => simp
  | some value => cases Entries.get? override (.text name) <;> simp

/-! ## Paths -/

/-- Whether something else than a mapping stands on the way along a path, so that the path
leads nowhere. -/
def Blocks (value : Value) (path : Settings.Path) : Prop :=
  ∃ front, front <+: path ∧ front ≠ path ∧
    ∃ found, value.at? front = some found ∧ found.isMapping = false

theorem at?_cons_of_not_mapping
    {value : Value}
    (scalar : value.isMapping = false)
    (name : String)
    (path : Settings.Path) :
    value.at? (name :: path) = none := by
  cases value with
  | mapping entries => cases scalar
  | _ => rfl

theorem not_blocks_nil (value : Value) : ¬value.Blocks [] := by
  rintro ⟨front, within, other, -⟩
  exact other (List.prefix_nil.mp within)

theorem blocks_of_not_mapping
    {value : Value}
    (scalar : value.isMapping = false)
    (name : String)
    (path : Settings.Path) :
    value.Blocks (name :: path) :=
  ⟨[], List.nil_prefix, by simp, value, at?_nil value, scalar⟩

/-- A mapping has something else on the way exactly if its value under the first name
has. -/
theorem blocks_mapping_cons_iff
    {entries : Entries}
    {name : String}
    {path : Settings.Path} :
    (mapping entries).Blocks (name :: path) ↔
      ∃ value, Entries.get? entries (.text name) = some value ∧ value.Blocks path := by
  constructor
  · rintro ⟨front, within, other, found, leads, scalar⟩
    cases front with
    | nil =>
        obtain rfl := Option.some.inj ((at?_nil _).symm.trans leads)
        cases scalar
    | cons first front =>
        obtain ⟨rfl, inside⟩ := List.cons_prefix_cons.mp within
        obtain ⟨value, named, leads⟩ := Option.bind_eq_some_iff.mp leads
        have shorter : front ≠ path := fun same => other (congrArg _ same)
        exact ⟨value, named, front, inside, shorter, found, leads, scalar⟩
  · rintro ⟨value, named, front, within, other, found, leads, scalar⟩
    refine ⟨name :: front, List.cons_prefix_cons.mpr ⟨rfl, within⟩, ?_, found, ?_, scalar⟩
    · exact fun same => other (List.tail_eq_of_cons_eq same)
    · rw [at?, named]
      exact leads

/-- A path leads nowhere if something else than a mapping stands on its way. -/
theorem at?_of_blocks
    {value : Value}
    {path : Settings.Path}
    (blocks : value.Blocks path) :
    value.at? path = none := by
  induction path generalizing value with
  | nil => exact absurd blocks value.not_blocks_nil
  | cons name path inductionHypothesis =>
      cases value with
      | mapping entries =>
          obtain ⟨inner, named, inside⟩ := blocks_mapping_cons_iff.mp blocks
          rw [at?, named]
          exact inductionHypothesis inside
      | _ => rfl

/-- A path that leads somewhere has nothing but mappings on the way. -/
theorem not_blocks_of_at?
    {value found : Value}
    {path : Settings.Path}
    (leads : value.at? path = some found) :
    ¬value.Blocks path := by
  intro blocks
  rw [at?_of_blocks blocks] at leads
  cases leads

theorem at?_merge_mapping_cons
    (base override : Entries)
    (name : String)
    (path : Settings.Path) :
    ((mapping base).merge (mapping override)).at? (name :: path) =
      (Option.merge merge (Entries.get? base (.text name))
        (Entries.get? override (.text name))).bind fun value => value.at? path := by
  rw [merge, at?, get?_merge]

/-- Where the tree that takes precedence has something else than a mapping on the way, a
path leads nowhere. -/
theorem at?_merge_of_blocks
    {override : Value}
    {path : Settings.Path}
    (blocks : override.Blocks path)
    (base : Value) :
    (base.merge override).at? path = none := by
  induction path generalizing base override with
  | nil => exact absurd blocks override.not_blocks_nil
  | cons name path inductionHypothesis =>
      by_cases mappings : base.isMapping = true ∧ override.isMapping = true
      · obtain ⟨base, rfl⟩ := exists_entries mappings.1
        obtain ⟨override, rfl⟩ := exists_entries mappings.2
        obtain ⟨value, named, inside⟩ := blocks_mapping_cons_iff.mp blocks
        rw [at?_merge_mapping_cons, named]
        cases Entries.get? base (.text name) with
        | none => exact at?_of_blocks inside
        | some other => exact inductionHypothesis inside other
      · rw [merge_of_not_mappings mappings]
        exact at?_of_blocks blocks

/-- Elsewhere a path leads to what it leads to in one of the trees, or to what it leads
to in both, merged. -/
theorem at?_merge
    {override : Value}
    {path : Settings.Path}
    (free : ¬override.Blocks path)
    (base : Value) :
    (base.merge override).at? path =
      Option.merge merge (base.at? path) (override.at? path) := by
  induction path generalizing base override with
  | nil => simp
  | cons name path inductionHypothesis =>
      cases kind : override.isMapping with
      | false => exact absurd (blocks_of_not_mapping kind name path) free
      | true =>
          obtain ⟨entries, rfl⟩ := exists_entries kind
          cases other : base.isMapping with
          | false =>
              rw [merge_of_not_mappings (by simp [other]), at?_cons_of_not_mapping other]
              simp
          | true =>
              obtain ⟨base, rfl⟩ := exists_entries other
              rw [at?_merge_mapping_cons, at?, at?]
              cases overriding : Entries.get? entries (.text name) with
              | none => simp
              | some value =>
                  have inside : ¬value.Blocks path := fun blocks =>
                    free (blocks_mapping_cons_iff.mpr ⟨value, overriding, blocks⟩)
                  cases Entries.get? base (.text name) with
                  | none => simp
                  | some below => exact inductionHypothesis inside below

end Value
end WildcardDiff
