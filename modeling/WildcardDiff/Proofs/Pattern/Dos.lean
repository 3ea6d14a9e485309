import WildcardDiff.Pattern.Dos
import WildcardDiff.Proofs.Pattern.Escape

/-!
# What DOS wildcards stand for

Every element of a pattern becomes one character of its DOS wildcard. A set becomes any
one character, and a literal star or question mark becomes a wildcard again, so that the
DOS wildcard stands for every text that the pattern matches, and maybe for more. Without
sets and such literals it stands for the same texts.
-/

namespace WildcardDiff

namespace Dos

/-- The portion that a character of a DOS wildcard is. -/
def portion (char : Char) : Portion Char :=
  if char = '*' then .run
  else if char = '?' then .one fun _ => true
  else .one fun given => decide (given = char)

/-- Whether a text is one of those that a DOS wildcard stands for. -/
def Matches (wildcard text : Text) : Prop :=
  Portion.Accepts (wildcard.map portion) text

end Dos

namespace Portion

/-- Whether a portion takes every piece that another portion takes. -/
def Dominates (wide narrow : Portion α) : Prop :=
  ∀ piece, narrow.Takes piece → wide.Takes piece

theorem Dominates.refl (portion : Portion α) : portion.Dominates portion :=
  fun _ takes => takes

theorem Dominates.of_run (narrow : Portion α) : run.Dominates narrow :=
  fun _ _ => trivial

/-- If each portion of a row dominates the one in its place, what the row in its place
accepts is accepted. -/
theorem Accepts.of_dominates
    {row : List β}
    {wide narrow : β → Portion α}
    {items : List α}
    (dominates : ∀ entry ∈ row, (wide entry).Dominates (narrow entry))
    (accepts : Accepts (row.map narrow) items) :
    Accepts (row.map wide) items := by
  obtain ⟨pieces, rfl, taken⟩ := accepts_iff_pieces.mp accepts
  refine accepts_iff_pieces.mpr ⟨pieces, rfl, ?_⟩
  rw [List.forall₂_map_left_iff] at taken ⊢
  have both := (List.forall₂_and_left row pieces).mpr ⟨dominates, taken⟩
  exact both.imp fun entry piece ⟨dominates, takes⟩ => dominates piece takes

end Portion

namespace Construct

/-- The character of a DOS wildcard that a construct becomes. -/
def dosChar : Construct → Char
  | .literal char => char
  | .star => '*'
  | .question => '?'
  | .set _ => '?'

theorem flatMap_dos (construct : Construct) :
    construct.events.flatMap Event.dos = [construct.dosChar] := by
  cases construct with
  | set choices =>
      have silent : (choices.map Choice.event).flatMap Event.dos = [] := by
        rw [List.flatMap_eq_nil_iff, List.forall_mem_map]
        intro choice _
        cases choice <;> rfl
      rw [events, List.cons_append, List.flatMap_cons, List.flatMap_append, silent]
      rfl
  | _ => rfl

variable {options : Options} {construct : Construct}

/-- Where letter case counts, a construct takes nothing that its character does not
take. -/
theorem dosChar_dominates (keepsCase : options.folding = .exact) (construct : Construct) :
    (Dos.portion construct.dosChar).Dominates (construct.charPortion options) := by
  cases construct with
  | literal char =>
      rw [charPortion_literal keepsCase, dosChar, Dos.portion]
      split
      · exact .of_run _
      · split
        · rintro _ ⟨given, rfl, -⟩
          exact ⟨given, rfl, rfl⟩
        · exact .refl _
  | star => exact .of_run _
  | question | set choices =>
      rintro _ ⟨given, rfl, -⟩
      exact ⟨given, rfl, rfl⟩

/-- A construct other than a set or a literal wildcard takes all that its character
takes. -/
theorem dominates_dosChar
    (keepsCase : options.folding = .exact)
    (noSet : .setOpen ∉ construct.events)
    (noStar : .literal '*' ∉ construct.events)
    (noQuestion : .literal '?' ∉ construct.events) :
    (construct.charPortion options).Dominates (Dos.portion construct.dosChar) := by
  cases construct with
  | literal char =>
      have ordinary : char ≠ '*' ∧ char ≠ '?' := by
        simpa [events, eq_comm] using And.intro noStar noQuestion
      rw [charPortion_literal keepsCase, dosChar, Dos.portion, if_neg ordinary.1,
        if_neg ordinary.2]
      exact .refl _
  | star => exact .refl _
  | question => exact .refl _
  | set choices => exact absurd List.mem_cons_self noSet

end Construct

namespace Pattern

/-- The DOS wildcard of a pattern has a character for each of its constructs. -/
theorem dosWildcard_of_events
    {pattern : Pattern}
    {constructs : List Construct}
    (events : pattern.events = constructs.flatMap Construct.events) :
    pattern.dosWildcard = constructs.map Construct.dosChar := by
  rw [dosWildcard, events, List.flatMap_assoc]
  simp only [Construct.flatMap_dos]
  exact List.flatMap_pure_eq_map _ _

/-- The DOS wildcard of a pattern in which letter case counts has one character for each
element of the pattern, and stands for every text that the pattern matches. If the
pattern has no set and no literal star or question mark, it stands for no other text. -/
theorem dosWildcard_widens
    (pattern : Pattern)
    (caseful : pattern.options.ignoreCase = false) :
    pattern.dosWildcard.length = pattern.elements.length ∧
      (∀ text, pattern.isMatch text = true → Dos.Matches pattern.dosWildcard text) ∧
      (.setOpen ∉ pattern.events → .literal '*' ∉ pattern.events →
        .literal '?' ∉ pattern.events →
        ∀ text, Dos.Matches pattern.dosWildcard text → pattern.isMatch text = true) := by
  have keepsCase := Options.folding_eq_exact caseful
  obtain ⟨constructs, -, events⟩ := pattern.exists_constructs
  have within : ∀ construct ∈ constructs, ∀ event, event ∉ pattern.events →
      event ∉ construct.events := by
    intro construct present event absent inside
    rw [events] at absent
    exact absent (List.mem_flatMap.mpr ⟨construct, present, inside⟩)
  simp only [isMatch_iff_accepts, portions_of_events events, Dos.Matches,
    dosWildcard_of_events events, elements_of_events events, List.length_map,
    List.map_map, true_and]
  constructor
  · intro text accepts
    exact accepts.of_dominates fun construct _ => construct.dosChar_dominates keepsCase
  · intro noSet noStar noQuestion text accepts
    refine accepts.of_dominates fun construct present => ?_
    exact Construct.dominates_dosChar keepsCase (within construct present _ noSet)
      (within construct present _ noStar) (within construct present _ noQuestion)

/-- An escaped bracket and both wildcards, with an option that says nothing about letter
case. -/
theorem dosWildcard_widens_example :
    ∃ pattern : Pattern, build "\\[?*]".toList (some '\\') ⟨5⟩ = .ok pattern ∧
      pattern.options.ignoreCase = false ∧
      (.setOpen ∉ pattern.events ∧ .literal '*' ∉ pattern.events ∧
        .literal '?' ∉ pattern.events) ∧
      pattern.dosWildcard = "[?*]".toList ∧ pattern.elements.length = 4 ∧
      ∀ text, pattern.isMatch text = true ↔ Dos.Matches "[?*]".toList text := by
  let pattern : Pattern := ⟨"\\[?*]".toList, some '\\', ⟨5⟩,
    [.literal '[', .question, .star, .literal ']'], by decide, by decide⟩
  obtain ⟨length, widens, exactly⟩ := pattern.dosWildcard_widens (by decide)
  refine ⟨pattern, build_eq_ok_iff.mpr ⟨rfl, rfl, rfl⟩, by decide, by decide, rfl, ?_, ?_⟩
  · exact length.symm
  · intro text
    exact ⟨widens text, exactly (by decide) (by decide) (by decide) text⟩

end Pattern
end WildcardDiff
