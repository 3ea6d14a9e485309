import WildcardDiff.Proofs.Pattern.LoneMember
import WildcardDiff.Proofs.Text.CaseFolding

/-!
# Relaxed case options

Options can be compared by how much of letter case they remove: nothing, lower case, or
all that case folding does. A folding that removes more makes equal whatever one that
removes less makes equal, and a set that ignores letter case still takes what it lists.
Relaxing the options of a pattern therefore never loses a match, and this is the only
change of options of which that can be said.
-/

namespace WildcardDiff

/-! ## Foldings -/

namespace Folding

/-- How much of letter case a folding removes. -/
def strength : Folding → Nat
  | .exact => 0
  | .lower => 1
  | .full => 2

variable {weak strong : Folding}

/-- What a folding makes equal, a stronger one does. -/
theorem apply_eq_of_strength_le
    (stronger : weak.strength ≤ strong.strength)
    {left right : Char}
    (equal : weak.apply [left] = weak.apply [right]) :
    strong.apply [left] = strong.apply [right] := by
  cases weak with
  | exact =>
      obtain rfl : left = right := List.singleton_inj.mp equal
      rfl
  | lower =>
      cases strong with
      | exact => exact absurd stronger (by decide)
      | lower => exact equal
      | full =>
          simp only [apply, Case.lowerText_singleton, Case.foldText_singleton] at equal ⊢
          exact Case.fold_eq_of_lower_eq equal
  | full =>
      cases strong with
      | exact => exact absurd stronger (by decide)
      | lower => exact absurd stronger (by decide)
      | full => exact equal

/-- The letter s tells all foldings apart, by its capital and by the long s. -/
theorem strength_le_of_apply_eq
    (equates : ∀ char, weak.apply ['s'] = weak.apply [char] →
      strong.apply ['s'] = strong.apply [char]) :
    weak.strength ≤ strong.strength := by
  have capital := equates 'S'
  have long := equates 'ſ'
  revert capital long
  cases weak <;> cases strong <;> decide +kernel

end Folding

theorem Options.strength_folding_le_iff {strict loose : Options} :
    strict.folding.strength ≤ loose.folding.strength ↔
      strict.ignoreCase = false ∨
        loose.ignoreCase = true ∧
          (strict.cultureInvariant = true ∨ loose.cultureInvariant = false) := by
  unfold folding
  cases strict.ignoreCase <;> cases strict.cultureInvariant <;>
    cases loose.ignoreCase <;> cases loose.cultureInvariant <;> decide

/-! ## Constructs -/

namespace Construct

/-- A set that ignores letter case takes what it takes while letter case counts. -/
theorem contains_charSet_of_exact
    {choices : List Choice}
    {char : Char}
    (contains : (charSet false choices).contains [char] = true) :
    (charSet true choices).contains [char] = true := by
  rw [contains_charSet, List.any_eq_true] at contains
  obtain ⟨choice, listed, accepts⟩ := contains
  exact contains_charSet_iff.mpr ⟨choice, listed, char, .inl rfl, accepts⟩

variable {strict loose : Options}

theorem ignoreCase_of_strength_le
    (relaxed : strict.folding.strength ≤ loose.folding.strength)
    (ignores : strict.ignoreCase = true) :
    loose.ignoreCase = true := by
  rcases Options.strength_folding_le_iff.mp relaxed with caseful | ⟨alsoIgnores, -⟩
  · rw [ignores] at caseful
    cases caseful
  · exact alsoIgnores

/-- Under relaxed options a construct takes what it takes under strict ones. -/
theorem charPortion_covers_of_relaxed
    (relaxed : strict.folding.strength ≤ loose.folding.strength)
    (construct : Construct) :
    Portion.Covers (fun _ => True) (construct.charPortion loose)
      (construct.charPortion strict) := by
  cases construct with
  | literal member =>
      intro char _ takes
      have equal : strict.folding.apply [member] = strict.folding.apply [char] :=
        of_decide_eq_true takes
      exact decide_eq_true (Folding.apply_eq_of_strength_le relaxed equal)
  | star => trivial
  | question => exact fun _ _ _ => rfl
  | set choices =>
      intro char _ takes
      change (charSet strict.ignoreCase choices).contains [char] = true at takes
      change (charSet loose.ignoreCase choices).contains [char] = true
      cases ignores : strict.ignoreCase with
      | true =>
          rw [ignores] at takes
          rwa [ignoreCase_of_strength_le relaxed ignores]
      | false =>
          rw [ignores] at takes
          cases alsoIgnores : loose.ignoreCase with
          | true => exact contains_charSet_of_exact takes
          | false => exact takes

end Construct

/-! ## Patterns -/

namespace Pattern

/-- The pattern of the same text and escape with other options. -/
def withOptions (pattern : Pattern) (options : Options) : Pattern :=
  { pattern with options }

theorem build_withOptions (pattern : Pattern) (options : Options) :
    build pattern.text pattern.escape options = .ok (pattern.withOptions options) :=
  build_eq_ok_iff.mpr ⟨rfl, rfl, rfl⟩

/-- A pattern loses no match when its options are relaxed. -/
theorem isMatch_withOptions
    {pattern : Pattern}
    {loose : Options}
    (relaxed : pattern.options.folding.strength ≤ loose.folding.strength)
    {line : Text}
    (matched : pattern.isMatch line = true) :
    (pattern.withOptions loose).isMatch line = true := by
  obtain ⟨constructs, -, events⟩ := pattern.exists_constructs
  have alsoEvents :
      (pattern.withOptions loose).events = constructs.flatMap Construct.events :=
    events
  rw [isMatch_iff_accepts, portions_of_events events] at matched
  rw [isMatch_iff_accepts, portions_of_events alsoEvents]
  exact matched.map_mono
    (fun construct _ => construct.charPortion_covers_of_relaxed relaxed)
      (fun _ _ => trivial)

/-- The pattern of the letter s alone. -/
def letterS (options : Options) : Pattern :=
  ⟨['s'], none, options, [.literal 's'], by decide, by decide⟩

theorem build_letterS (options : Options) :
    build ['s'] none options = .ok (letterS options) :=
  build_eq_ok_iff.mpr ⟨rfl, rfl, rfl⟩

theorem isMatch_letterS (options : Options) (char : Char) :
    (letterS options).isMatch [char] = true ↔
      options.folding.apply ['s'] = options.folding.apply [char] := by
  have events : (letterS options).events =
      ([] ++ Construct.literal 's' :: []).flatMap Construct.events := rfl
  have matched :=
    isMatch_between_samples events (Construct.charPortion_literal_eq options 's')
    (by simp) (by simp) 'a' char
  have single : (letterS options).isMatch [char] =
      Construct.takesLiteral options 's' char :=
    matched
  rw [single, Construct.takesLiteral, decide_eq_true_iff]

/-- Whatever options a text is accepted with, it is accepted with others. The pattern
with the others matches all that the first one matches, for every text, exactly if the
first options do not ignore letter case, or both do and the second do not stop at lower
case unless the first do. -/
theorem relaxed_options_lose_no_match_iff (strict loose : Options) :
    (∀ text escape pattern, build text escape strict = .ok pattern →
        ∃ relaxed, build text escape loose = .ok relaxed ∧
          ∀ line, pattern.isMatch line = true → relaxed.isMatch line = true) ↔
      strict.ignoreCase = false ∨
        loose.ignoreCase = true ∧
          (strict.cultureInvariant = true ∨ loose.cultureInvariant = false) := by
  rw [← Options.strength_folding_le_iff]
  constructor
  · intro keeps
    apply Folding.strength_le_of_apply_eq
    intro char
    obtain ⟨relaxed, built, kept⟩ :=
      keeps ['s'] none (letterS strict) (build_letterS strict)
    obtain rfl := Except.ok.inj (built.symm.trans (build_letterS loose))
    rw [← isMatch_letterS, ← isMatch_letterS]
    exact kept [char]
  · intro relaxed text escape pattern built
    obtain ⟨rfl, rfl, rfl⟩ := build_eq_ok_iff.mp built
    exact ⟨pattern.withOptions loose, pattern.build_withOptions loose,
      fun _ => isMatch_withOptions relaxed⟩

/-- The long s is an s if letter case is ignored, but not with lower case alone. -/
example : (letterS ⟨2⟩).isMatch ['ſ'] = true ∧ (letterS ⟨6⟩).isMatch ['ſ'] = false := by
  decide +kernel

end Pattern
end WildcardDiff
