import WildcardDiff.Settings.Schema
import WildcardDiff.Proofs.Diff.Comparison
import WildcardDiff.Proofs.Diff.Rendering

/-!
# Reports that can be made

A report on a diff can be made if all captures can be displayed. The parts of actual
lines can; a placeholder can if it is a text or a null.
-/

namespace WildcardDiff
namespace Report

/-- Whether a value can be displayed. -/
def Displayable (value : Value) : Prop :=
  ∃ shown, displayValue value = .ok shown

theorem displayable_ofText (text : Text) : Displayable (.ofText text) :=
  ⟨_, rfl⟩

/-- What cannot be displayed is neither a null nor a text. -/
theorem not_text_of_not_displayable {value : Value} (hidden : ¬ Displayable value) :
    value ≠ .null ∧ Settings.Kind.text.admits value = false := by
  cases value with
  | null => exact absurd ⟨_, rfl⟩ hidden
  | text content => exact absurd ⟨_, rfl⟩ hidden
  | surrogates content => exact absurd ⟨_, rfl⟩ hidden
  | _ => exact ⟨by simp, rfl⟩

theorem exists_captureLines
    {captures : List Value}
    (displayable : ∀ capture ∈ captures, Displayable capture) :
    ∃ lines, captureLines captures = .ok lines := by
  have each : ∃ shown, captures.mapM captureLine = .ok shown := by
    apply exists_mapM_eq_ok
    intro capture present
    obtain ⟨shown, display⟩ := displayable capture present
    unfold captureLine
    rw [display]
    exact ⟨_, rfl⟩
  obtain ⟨shown, each⟩ := each
  unfold captureLines
  rw [each]
  exact ⟨_, rfl⟩

theorem exists_block
    {line : LineOutcome}
    (displayable : ∀ capture ∈ line.captures, Displayable capture) :
    ∃ lines, block line = .ok lines := by
  obtain ⟨captures, shown⟩ := exists_captureLines displayable
  have outcome : ∃ lines, outcomeLines line = .ok lines := by
    unfold outcomeLines
    rw [shown]
    split
    · exact ⟨_, rfl⟩
    · split
      · exact ⟨_, rfl⟩
      · split <;> exact ⟨_, rfl⟩
  obtain ⟨lines, outcome⟩ := outcome
  unfold block
  rw [outcome]
  exact ⟨_, rfl⟩

theorem exists_detailedLines
    {diff : Diff}
    (displayable : ∀ line ∈ diff, ∀ capture ∈ line.captures, Displayable capture)
    (header : Value) :
    ∃ lines, detailedLines header diff = .ok lines := by
  have blocks : ∃ blocks, diff.mapM block = .ok blocks :=
    exists_mapM_eq_ok fun line present => exists_block (displayable line present)
  obtain ⟨blocks, shown⟩ := blocks
  unfold detailedLines
  rw [shown]
  exact ⟨_, rfl⟩

section

variable {engine : Template.Engine} (documented : engine.Documented)
include documented

/-- The plain report is the lines of its layout. -/
theorem render_plain (header : Value) (diff : Diff) :
    render engine .plain header diff = .ok (ended (plainLines header diff)) :=
  documented.renders read_plainSource (render_plainTemplate header diff)

/-- The detailed report is the lines of its layout, or fails at a capture. -/
theorem render_detailed (header : Value) (diff : Diff) :
    render engine .detailed header diff =
      ((detailedLines header diff).map ended).mapError .filter := by
  have comes := render_detailedTemplate header diff
  cases shown : detailedLines header diff with
  | error error =>
      rw [shown] at comes
      exact documented.passes read_detailedSource comes
  | ok lines =>
      rw [shown] at comes
      exact documented.renders read_detailedSource comes

/-- A report fails only at a capture that cannot be displayed. -/
theorem exists_render
    {diff : Diff}
    (displayable : ∀ line ∈ diff, ∀ capture ∈ line.captures, Displayable capture)
    (layout : Layout)
    (header : Value) :
    ∃ report, render engine layout header diff = .ok report := by
  cases layout with
  | plain => exact ⟨_, render_plain documented header diff⟩
  | detailed =>
      obtain ⟨lines, shown⟩ := exists_detailedLines displayable header
      rw [render_detailed documented, shown]
      exact ⟨_, rfl⟩

end

end Report

namespace Analyzer

/-- A capture is a part of the actual line, or the placeholder. -/
theorem capture_cases
    {analyzer : Analyzer}
    {pattern : Pattern}
    {actual : Text}
    {capture : Value}
    (present : capture ∈ analyzer.captured pattern actual) :
    (∃ text, capture = .ofText text) ∨ capture = analyzer.placeholder := by
  unfold captured at present
  split at present
  · obtain ⟨text, -, rfl⟩ := List.mem_map.mp present
    exact .inl ⟨text, rfl⟩
  · exact .inr (List.eq_of_mem_replicate present)

theorem Compares.capture_cases
    {analyzer : Analyzer}
    {number : Nat}
    {expecteds actuals : List Text}
    {diff : Diff}
    (compares : analyzer.Compares number expecteds actuals diff) :
    ∀ line ∈ diff, ∀ capture ∈ line.captures,
      (∃ text, capture = .ofText text) ∨ capture = analyzer.placeholder := by
  refine compares.forall_mem ?_ ?_ ?_
  · simp [extraLine]
  · simp [missingLine]
  · intro number pattern expected actual
    unfold lineOutcome
    split
    · exact fun capture present => Analyzer.capture_cases present
    · simp

end Analyzer

end WildcardDiff
