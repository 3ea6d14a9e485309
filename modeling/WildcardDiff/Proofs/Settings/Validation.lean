import WildcardDiff.Settings.Schema
import WildcardDiff.Proofs.Settings.Layers

/-!
# What validation promises

A schema is checked against the merged view, while settings are read layer by layer. A
value that is read therefore has the kind of its leaf wherever its path is exposed.
Where a layer above the one that answers holds a null or another scalar in place of a
section, validation sees the scalar and the reader does not.
-/

namespace WildcardDiff

/-- The kind that the schema of the known settings asks of a setting. -/
def Setting.kind? : Setting → Option Settings.Kind
  | .escapeCharacter => some .text
  | .caseInsensitive => some .bool
  | .cultureInvariant => some .bool
  | .placeholder => some .text
  | .mismatchHints => some .bool
  | .enhanced => some .bool
  | .logLevel => some .text
  | .logFile => none

namespace Settings

theorem Kind.admits_merge (kind : Kind) (base value : Value) :
    kind.admits (base.merge value) = kind.admits value := by
  by_cases mappings : base.isMapping = true ∧ value.isMapping = true
  · obtain ⟨base, rfl⟩ := Value.exists_entries mappings.1
    obtain ⟨value, rfl⟩ := Value.exists_entries mappings.2
    cases kind <;> rfl
  · rw [Value.merge_of_not_mappings mappings]

theorem merge_eq_null_iff {base value : Value} :
    base.merge value = .null ↔ value = .null := by
  by_cases mappings : base.isMapping = true ∧ value.isMapping = true
  · obtain ⟨base, rfl⟩ := Value.exists_entries mappings.1
    obtain ⟨value, rfl⟩ := Value.exists_entries mappings.2
    simp [Value.merge]
  · rw [Value.merge_of_not_mappings mappings]

namespace Schema

/-- The paths at which a schema asks for a kind. -/
inductive Leaf : List (String × Schema) → Path → Kind → Prop
  | kind {entries : List (String × Schema)} {name : String} {kind : Kind} :
      (name, .kind kind) ∈ entries → Leaf entries [name] kind
  | inner {entries below : List (String × Schema)} {name : String} {path : Path}
      {kind : Kind} :
      (name, .entries below) ∈ entries → Leaf below path kind →
      Leaf entries (name :: path) kind

/-- The entries after the first are checked too. -/
theorem checkEntries_tail
    {first : String × Schema}
    {schema : List (String × Schema)}
    {before : Text}
    {found : Entries}
    (valid : checkEntries before (first :: schema) found = .ok ()) :
    checkEntries before schema found = .ok () := by
  rw [checkEntries] at valid
  split at valid
  · exact valid
  · exact valid
  · obtain ⟨_, -, rest⟩ := bind_eq_ok_iff.mp valid
    exact rest

/-- Every entry of a schema is checked, unless the value under its name is absent or
null. -/
theorem check_of_mem
    {schema : List (String × Schema)}
    {before : Text}
    {found : Entries}
    (valid : checkEntries before schema found = .ok ())
    {name : String}
    {wanted : Schema}
    (listed : (name, wanted) ∈ schema)
    {value : Value}
    (holds : Entries.get? found (.text name) = some value)
    (present : value ≠ .null) :
    check (before ++ name.toList) wanted value = .ok () := by
  induction schema with
  | nil => cases listed
  | cons first schema inductionHypothesis =>
      rcases List.mem_cons.mp listed with rfl | listed
      · rw [checkEntries, holds] at valid
        split at valid
        · rename_i absent
          cases absent
        · rename_i null
          exact absurd (Option.some.inj null) present
        · rename_i same
          obtain rfl := Option.some.inj same
          obtain ⟨_, passed, -⟩ := bind_eq_ok_iff.mp valid
          exact passed
      · exact inductionHypothesis (checkEntries_tail valid) listed

/-- Where entries pass a schema, the value at a leaf is null or has the kind of the
leaf. -/
theorem Leaf.null_or_admits
    {schema : List (String × Schema)}
    {path : Path}
    {kind : Kind}
    (leaf : Leaf schema path kind)
    {before : Text}
    {found : Entries}
    (valid : checkEntries before schema found = .ok ())
    {value : Value}
    (leads : (Value.mapping found).at? path = some value) :
    value = .null ∨ kind.admits value = true := by
  induction leaf generalizing before found value with
  | @kind entries name kind listed =>
      obtain ⟨inside, holds, leads⟩ := Option.bind_eq_some_iff.mp leads
      rw [Value.at?_nil, Option.some.injEq] at leads
      rw [leads] at holds
      by_cases null : value = .null
      · exact .inl null
      · have passed := check_of_mem valid listed holds null
        rw [check] at passed
        split at passed
        · rename_i admitted
          exact .inr admitted
        · cases passed
  | @inner entries below name path kind listed leaf inductionHypothesis =>
      obtain ⟨inside, holds, leads⟩ := Option.bind_eq_some_iff.mp leads
      by_cases null : inside = .null
      · -- A section that is null has no leaves, unless the leaf is the section itself.
        subst null
        cases path with
        | nil => exact .inl (Option.some.inj leads).symm
        | cons => cases leads
      · have passed := check_of_mem valid listed holds null
        cases kind : inside.isMapping with
        | true =>
            obtain ⟨entries, rfl⟩ := Value.exists_entries kind
            rw [check] at passed
            exact inductionHypothesis passed leads
        | false => cases inside <;> cases kind <;> cases passed

theorem leaf_known_of_mem
    {name leaf : String}
    {entries : List (String × Schema)}
    {kind : Kind}
    (isSection : (name, .entries entries) ∈ sections)
    (isLeaf : (leaf, .kind kind) ∈ entries) :
    Leaf known [Setting.root, name, leaf] kind :=
  .inner (.head _) (.inner isSection (.kind isLeaf))

/-- Every setting that has a kind is a leaf of the schema of the known settings. -/
theorem leaf_known_of_kind?
    (setting : Setting)
    {kind : Kind}
    (asked : setting.kind? = some kind) :
    Leaf known setting.path kind := by
  cases setting with
  | logFile => cases asked
  | escapeCharacter =>
      obtain rfl := Option.some.inj asked
      exact leaf_known_of_mem (.head _) (.head _)
  | caseInsensitive =>
      obtain rfl := Option.some.inj asked
      exact leaf_known_of_mem (.head _) (.tail _ (.head _))
  | cultureInvariant =>
      obtain rfl := Option.some.inj asked
      exact leaf_known_of_mem (.head _) (.tail _ (.tail _ (.head _)))
  | placeholder =>
      obtain rfl := Option.some.inj asked
      exact leaf_known_of_mem (.tail _ (.head _)) (.head _)
  | mismatchHints =>
      obtain rfl := Option.some.inj asked
      exact leaf_known_of_mem (.tail _ (.head _)) (.tail _ (.head _))
  | enhanced =>
      obtain rfl := Option.some.inj asked
      exact leaf_known_of_mem (.tail _ (.head _)) (.tail _ (.tail _ (.head _)))
  | logLevel =>
      obtain rfl := Option.some.inj asked
      exact leaf_known_of_mem (.tail _ (.tail _ (.head _))) (.head _)

end Schema

theorem checkEscape_eq_ok_iff {value : Value} :
    checkEscape value = .ok () ↔ value = .null ∨ value.length? = some 1 := by
  by_cases null : value = .null
  · simp [null, checkEscape]
  · rw [checkEscape]
    · cases value.length? with
      | none => simp [null]
      | some length =>
          by_cases single : length = 1
          · simp [single]
          · simp [null, single]
    · exact null

namespace Layers

variable {layers : Layers}

theorem validate_eq_ok_iff {schema : List (String × Schema)} :
    layers.validate schema = .ok () ↔
      (∃ entries, layers.merged = .ok (.mapping entries) ∧
        Schema.checkEntries [] (if schema.isEmpty then Schema.known else schema) entries
          = .ok ()) ∧
        checkEscape (layers.choose .escapeCharacter .null) = .ok () := by
  unfold validate
  cases layers.merged with
  | error error => simp [bind, Except.bind]
  | ok tree =>
      cases kind : tree.isMapping with
      | true =>
          obtain ⟨entries, rfl⟩ := Value.exists_entries kind
          simp only [bind_eq_ok_iff, Except.ok.injEq, Value.mapping.injEq,
            exists_eq_left']
          constructor
          · rintro ⟨_, passed, single⟩
            exact ⟨passed, single⟩
          · rintro ⟨passed, single⟩
            exact ⟨(), passed, single⟩
      | false => cases tree <;> cases kind <;> simp [bind, Except.bind]

/-- Validation by the schema of the known settings. A setting that is read is null or
has the kind of its leaf wherever its path is exposed, and an escape setting is null or
has the length one in any case. -/
theorem kinds_of_validate
    (layers : Layers)
    (valid : layers.validate [] = .ok ()) :
    (∀ path kind, Schema.Leaf Schema.known path kind → layers.Exposes path →
      ∀ value, layers.get? path = some value →
        value = .null ∨ kind.admits value = true) ∧
      ∀ value, layers.get? Setting.escapeCharacter.path = some value → value ≠ .null →
        value.length? = some 1 ∧
          (layers.Exposes Setting.escapeCharacter.path →
            Kind.text.admits value = true) := by
  obtain ⟨⟨entries, merged, checked⟩, single⟩ := validate_eq_ok_iff.mp valid
  have kinds : ∀ path kind, Schema.Leaf Schema.known path kind → layers.Exposes path →
      ∀ value, layers.get? path = some value →
        value = .null ∨ kind.admits value = true := by
    intro path kind leaf exposes value found
    obtain ⟨base, leads⟩ := exposes.at?_merged merged found
    rcases leaf.null_or_admits checked leads with null | admitted
    · exact .inl (merge_eq_null_iff.mp null)
    · rw [Kind.admits_merge] at admitted
      exact .inr admitted
  refine ⟨kinds, ?_⟩
  intro value found present
  rw [choose, found, Option.getD_some, checkEscape_eq_ok_iff] at single
  refine ⟨single.resolve_left present, ?_⟩
  intro exposes
  have leaf := Schema.leaf_known_of_kind? .escapeCharacter rfl
  exact (kinds _ _ leaf exposes value found).resolve_left present

/-- A user's settings that choose a pattern option, under run-time settings without a
section for diffs. -/
def chosen : Layers :=
  (initial.load .userConfig
    (group [(Setting.root,
      group [("pattern", group [("case_insensitive", .bool true)])])])).load
    .runtime (group [(Setting.root, group [("diff", .null)])])

/-- The scalar in the place of a section does not stand on the way to another section. -/
theorem kinds_of_validate_chosen :
    chosen.validate [] = .ok () ∧
      Schema.Leaf Schema.known Setting.caseInsensitive.path .bool ∧
      chosen.Exposes Setting.caseInsensitive.path ∧
      chosen.get? Setting.caseInsensitive.path = some (.bool true) ∧
      (Value.bool true = .null ∨ Kind.bool.admits (.bool true) = true) := by
  have valid : chosen.validate [] = .ok () := rfl
  have leaf := Schema.leaf_known_of_kind? .caseInsensitive rfl
  have found : chosen.get? Setting.caseInsensitive.path = some (.bool true) := rfl
  have exposes : chosen.Exposes Setting.caseInsensitive.path := by
    intro value source answer higher tree outranks held
    have answers : source = .userConfig := (Prod.mk.inj (Option.some.inj answer)).2.symm
    subst answers
    cases higher with
    | compiledDefaults => exact absurd outranks (by decide)
    | systemConfig => exact absurd outranks (by decide)
    | userConfig => exact absurd outranks (by decide)
    | environment => cases held
    | cliArgs => cases held
    | runtime =>
        obtain rfl := Option.some.inj held
        rintro blocks
        obtain ⟨inside, root, blocks⟩ := Value.blocks_mapping_cons_iff.mp blocks
        obtain rfl := Option.some.inj root
        obtain ⟨_, absent, -⟩ := Value.blocks_mapping_cons_iff.mp blocks
        cases absent
  exact ⟨valid, leaf, exposes, found,
    (kinds_of_validate chosen valid).1 _ _ leaf exposes _ found⟩

/-- A system's settings with a pattern option of a wrong kind, under a user's settings
whose section for patterns is empty. -/
def masked : Layers :=
  (initial.load .systemConfig
    (group [(Setting.root,
      group [("pattern", group [("case_insensitive", .text "off")])])])).load
    .userConfig (group [(Setting.root, group [("pattern", .null)])])

/-- A null in the place of a section hides a value of a wrong kind from validation, and
the value is read all the same. -/
theorem masked_validates_wrong_kind :
    masked.OnlyMappings ∧ masked.validate [] = .ok () ∧
      Schema.Leaf Schema.known Setting.caseInsensitive.path .bool ∧
      ∃ value, masked.get? Setting.caseInsensitive.path = some value ∧
        value ≠ .null ∧ Kind.bool.admits value = false := by
  refine ⟨?_, rfl, Schema.leaf_known_of_kind? .caseInsensitive rfl,
    .text "off", rfl, by simp, rfl⟩
  intro source tree held
  cases source with
  | compiledDefaults | systemConfig | userConfig =>
      obtain rfl := Option.some.inj held
      rfl
  | environment | cliArgs | runtime => cases held

end Layers
end Settings
end WildcardDiff
