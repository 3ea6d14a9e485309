import WildcardDiff.Proofs.Diff.Account
import WildcardDiff.Proofs.Diff.Report
import WildcardDiff.Proofs.Text.Pieces

/-!
# The layout of detailed reports

Texts come into a detailed report in four ways: as lines of the two texts, as captures,
as the placeholder for them and as characters in a hint. In each way line feeds are made
visible. So the report has the lines that its blocks have, and how many these are
depends on nothing but what became of each line, on the number of its captures and on
whether there is a hint.
-/

namespace WildcardDiff

/-! ## Texts on one line -/

@[simp] theorem Digit.feed_not_mem_ofNat (value : Nat) : '\n' ∉ ofNat value := by
  intro present
  have digit := Nat.isDigit_of_mem_toDigits (by decide) (by decide) present
  exact absurd digit (by decide)

@[simp] theorem Digit.feed_not_mem_ofInt (value : Int) : '\n' ∉ ofInt value := by
  unfold ofInt
  split <;> simp

namespace Hint

@[simp] theorem feed_not_mem_visible (char : Char) : '\n' ∉ visible char := by
  unfold visible
  by_cases feed : char = '\n'
  · simp [feed]
  · split
    · decide
    · split
      · decide
      · simp [Ne.symm feed]

@[simp] theorem Difference.feed_not_mem_message (difference : Difference) :
    '\n' ∉ difference.message := by
  unfold message
  split <;> simp

theorem Difference.message_ne_nil (difference : Difference) :
    difference.message ≠ [] := by
  unfold message
  split <;> simp

end Hint

@[simp] theorem MismatchReason.feed_not_mem_message (reason : MismatchReason) :
    '\n' ∉ reason.message := by
  unfold message
  split <;> simp

namespace Report

@[simp] theorem feed_not_mem_visiblePoint (point : CodePoint) :
    .character '\n' ∉ visiblePoint point := by
  unfold visiblePoint
  split
  · decide
  · decide
  · decide
  · rename_i notFeed _
    simpa using Ne.symm notFeed

@[simp] theorem feed_not_mem_displayPoints (points : Points) :
    .character '\n' ∉ displayPoints points := by
  unfold displayPoints
  split
  · simp
  · rw [List.mem_flatMap]
    rintro ⟨point, -, present⟩
    exact feed_not_mem_visiblePoint point present

@[simp] theorem feed_not_mem_displayed (text : Option Text) :
    .character '\n' ∉ displayed text := by
  cases text with
  | none => simp [displayed]
  | some text => exact feed_not_mem_displayPoints (CodePoint.ofText text)

theorem feed_not_mem_displayValue
    {value : Value}
    {shown : Points}
    (displays : displayValue value = .ok shown) :
    .character '\n' ∉ shown := by
  unfold displayValue at displays
  split at displays
  · obtain rfl := Except.ok.inj displays
    simp
  · obtain rfl := Except.ok.inj displays
    exact feed_not_mem_displayPoints _
  · obtain rfl := Except.ok.inj displays
    exact feed_not_mem_displayPoints _
  · cases displays

theorem feed_not_mem_captureLine
    {capture : Value}
    {shown : Points}
    (shows : captureLine capture = .ok shown) :
    .character '\n' ∉ shown := by
  obtain ⟨displayed, displays, done⟩ := bind_eq_ok_iff.mp shows
  obtain rfl := Except.ok.inj done
  simp [feed_not_mem_displayValue displays]

@[simp] theorem feed_not_mem_expectedLine (line : LineOutcome) :
    .character '\n' ∉ expectedLine line := by
  unfold expectedLine
  simp

@[simp] theorem feed_not_mem_actualLine (line : LineOutcome) :
    .character '\n' ∉ actualLine line := by
  unfold actualLine
  simp

@[simp] theorem feed_not_mem_matchLine : .character '\n' ∉ matchLine := by
  unfold matchLine LineOutcome.matchMark
  simp

@[simp] theorem feed_not_mem_mismatchLine : .character '\n' ∉ mismatchLine := by
  unfold mismatchLine LineOutcome.mismatchMark
  simp

theorem feed_not_mem_headline
    {header : Value}
    (single : .character '\n' ∉ header.points) :
    .character '\n' ∉ headline header := by
  unfold headline
  simp [single]

theorem feed_not_mem_opening (line : LineOutcome) :
    ∀ shown ∈ opening line, .character '\n' ∉ shown := by
  unfold opening separator
  simp

theorem feed_not_mem_summary (diff : Diff) :
    ∀ shown ∈ summary diff, .character '\n' ∉ shown := by
  unfold summary countLine separator LineOutcome.matchMark LineOutcome.mismatchMark
  simp

/-- Lines without line feeds are the pieces between those that end them, before an empty
one. -/
theorem splitOn_ended
    {lines : List Points}
    (single : ∀ line ∈ lines, .character '\n' ∉ line) :
    (ended lines).splitOn (.character '\n') = lines ++ [[]] := by
  induction lines with
  | nil => rfl
  | cons line lines inductionHypothesis =>
      rw [List.forall_mem_cons] at single
      have split : ended (line :: lines) = line ++ .character '\n' :: ended lines :=
        List.append_assoc line [.character '\n'] (ended lines)
      rw [split, List.splitOn_append_cons_self, List.splitOn_eq_singleton single.1,
        inductionHypothesis single.2]
      rfl

end Report

/-! ## Blocks -/

/-- What a line of a diff says besides its texts goes on one line each: captures that
can be displayed, and a reason and a hint without line feeds. A hint says something. -/
structure LineOutcome.Presentable (line : LineOutcome) : Prop where
  captures : ∀ capture ∈ line.captures, Report.Displayable capture
  reason : ∀ reason ∈ line.reason, '\n' ∉ reason
  hint : ∀ hint ∈ line.hint, hint ≠ [] ∧ '\n' ∉ hint

namespace Report

/-- The number of lines in the block on a line of a diff. -/
def height (line : LineOutcome) : Nat :=
  if line.isExtra || line.isMissing then 5
  else if line.isMatch then
    if line.captures = [] then 5 else 5 + (1 + line.captures.length)
  else if line.hint.isSome then 6 + 1
  else 6

/-- The lines of a block: a separator and the number of the line that the block is
about, and as many lines after them as there is something to say. -/
structure IsBlock (line : LineOutcome) (lines : List Points) : Prop where
  opens : [CodePoint.ofText separator,
    CodePoint.ofText ("Line ".toList ++ Digit.ofInt line.number ++ ":".toList)] <+: lines
  length : lines.length = height line

theorem map_length_of_isBlock
    {diff : Diff}
    {blocks : List (List Points)}
    (shapes : List.Forall₂ IsBlock diff blocks) :
    blocks.map List.length = diff.map height := by
  induction shapes with
  | nil => rfl
  | cons isBlock _ inductionHypothesis =>
      rw [List.map_cons, List.map_cons, isBlock.length, inductionHypothesis]

variable {line : LineOutcome} {lines : List Points}

/-- The lines on captures are one for each after their heading. -/
theorem shape_of_captureLines
    {captures : List Value}
    (shows : captureLines captures = .ok lines) :
    lines.length = (if captures = [] then 0 else 1 + captures.length) ∧
      ∀ shown ∈ lines, .character '\n' ∉ shown := by
  obtain ⟨each, shown, done⟩ := bind_eq_ok_iff.mp shows
  obtain rfl := Except.ok.inj done
  have count := (mapM_eq_ok_iff.mp shown).length_eq
  have single : ∀ line ∈ each, .character '\n' ∉ line :=
    forall_mem_of_mapM shown fun _ _ _ => feed_not_mem_captureLine
  cases captures with
  | nil => simp
  | cons first others =>
      rw [if_neg (by simp), if_neg (by simp), List.forall_mem_cons]
      refine ⟨?_, by simp, single⟩
      rw [List.length_cons, ← count, Nat.add_comm]

section

variable (presentable : line.Presentable)
include presentable

theorem feed_not_mem_remark : .character '\n' ∉ remark line.reason := by
  unfold remark
  cases given : line.reason with
  | none => simp
  | some reason => simpa using presentable.reason reason given

/-- The lines on a mismatch are the reason and the hint if there is one. -/
theorem shape_of_reasonLines :
    (reasonLines line).length = (if line.hint.isSome then 2 else 1) ∧
      ∀ shown ∈ reasonLines line, .character '\n' ∉ shown := by
  have reason := feed_not_mem_remark presentable
  unfold reasonLines
  cases given : line.hint with
  | none => simp [reason]
  | some hint =>
      obtain ⟨telling, single⟩ := presentable.hint hint given
      simp [reason, telling, single]

theorem feed_not_mem_unpairedLine : .character '\n' ∉ unpairedLine line := by
  have reason := feed_not_mem_remark presentable
  unfold unpairedLine
  simp [reason]

/-- A block has the lines on the texts of an outcome after its separator and number. -/
theorem shape_of_outcomeLines (shows : outcomeLines line = .ok lines) :
    2 + lines.length = height line ∧ ∀ shown ∈ lines, .character '\n' ∉ shown := by
  have unpaired := feed_not_mem_unpairedLine presentable
  unfold outcomeLines at shows
  unfold height
  split at shows
  · rename_i extra
    obtain rfl := Except.ok.inj shows
    simp [extra, unpaired]
  · rename_i notExtra
    split at shows
    · rename_i missing
      obtain rfl := Except.ok.inj shows
      simp [missing, unpaired]
    · rename_i notMissing
      have paired : ¬(line.isExtra || line.isMissing) = true := by
        simp [notExtra, notMissing]
      rw [if_neg paired]
      split at shows
      · rename_i matched
        obtain ⟨rest, shown, rfl⟩ := map_eq_ok_iff.mp shows
        obtain ⟨count, single⟩ := shape_of_captureLines shown
        rw [if_pos matched, List.length_append, count, List.forall_mem_append]
        refine ⟨?_, by simp, single⟩
        change 2 + (3 + _) = _
        split <;> omega
      · rename_i mismatched
        obtain rfl := Except.ok.inj shows
        obtain ⟨count, single⟩ := shape_of_reasonLines presentable
        rw [if_neg mismatched, List.length_append, count, List.forall_mem_append]
        refine ⟨?_, by simp, single⟩
        split <;> simp

theorem shape_of_block (shows : block line = .ok lines) :
    IsBlock line lines ∧ ∀ shown ∈ lines, .character '\n' ∉ shown := by
  obtain ⟨rest, shown, rfl⟩ := map_eq_ok_iff.mp shows
  obtain ⟨count, single⟩ := shape_of_outcomeLines presentable shown
  rw [List.forall_mem_append]
  refine ⟨⟨⟨rest, rfl⟩, ?_⟩, feed_not_mem_opening line, single⟩
  rw [List.length_append, ← count]
  rfl

end

/-! ## The whole report -/

/-- The lines of a detailed report on presentable lines are a headline, a block for each
line and the summary. Nothing in the texts of the lines makes another line of the
report. -/
theorem lines_of_detailedLines
    {diff : Diff}
    {header : Value}
    (presentable : ∀ line ∈ diff, line.Presentable)
    (single : .character '\n' ∉ header.points)
    (shows : detailedLines header diff = .ok lines) :
    ∃ blocks, List.Forall₂ IsBlock diff blocks ∧
      (ended lines).splitOn (.character '\n') =
        headline header :: blocks.flatten ++ summary diff ++ [[]] := by
  obtain ⟨blocks, each, done⟩ := bind_eq_ok_iff.mp shows
  obtain rfl := Except.ok.inj done
  have shapes :=
    (List.forall₂_and_left diff blocks).mpr ⟨presentable, mapM_eq_ok_iff.mp each⟩
  refine ⟨blocks, shapes.imp fun line lines holds =>
    (shape_of_block holds.1 holds.2).1, ?_⟩
  have singleBlocks : ∀ lines ∈ blocks, ∀ shown ∈ lines, .character '\n' ∉ shown :=
    forall_mem_of_mapM each fun line present lines shows =>
      (shape_of_block (presentable line present) shows).2
  apply splitOn_ended
  rw [List.forall_mem_append, List.forall_mem_cons]
  refine ⟨⟨feed_not_mem_headline single, ?_⟩, feed_not_mem_summary diff⟩
  intro shown present
  obtain ⟨lines, listed, present⟩ := List.mem_flatten.mp present
  exact singleBlocks lines listed shown present

end Report

namespace Analyzer

variable {analyzer : Analyzer} {number : Nat} {expecteds actuals : List Text}
    {diff : Diff}

theorem presentable_extraLine (number : Int) (actual : Text) :
    (extraLine number actual).Presentable where
  captures := List.forall_mem_nil _
  reason := by simp [extraLine]
  hint := by simp [extraLine]

theorem presentable_missingLine (number : Int) (expected : Text) :
    (missingLine number expected).Presentable where
  captures := List.forall_mem_nil _
  reason := by simp [missingLine]
  hint := by simp [missingLine]

theorem presentable_lineOutcome
    (displayable : Report.Displayable analyzer.placeholder)
    (number : Int)
    (pattern : Pattern)
    (expected actual : Text) :
    (analyzer.lineOutcome number pattern expected actual).Presentable := by
  unfold lineOutcome
  split
  · refine ⟨fun capture captured => ?_, by simp, by simp⟩
    rcases capture_cases captured with ⟨text, rfl⟩ | rfl
    · exact Report.displayable_ofText text
    · exact displayable
  · refine ⟨List.forall_mem_nil _, by simp, fun hint given => ?_⟩
    have told : Hint.message? pattern actual = some hint := by
      split at given
      · exact given
      · cases given
    obtain ⟨difference, -, rfl⟩ := Option.map_eq_some_iff.mp told
    exact ⟨difference.message_ne_nil, difference.feed_not_mem_message⟩

/-- The counts of a diff add up to its lines. -/
theorem Compares.counts_eq_length
    (compares : analyzer.Compares number expecteds actuals diff) :
    diff.matchedCount + diff.mismatchedCount + diff.extraCount + diff.missingCount =
      diff.length := by
  have extraCount : diff.extraCount = actuals.length - expecteds.length := by
    simp [Diff.extraCount, compares.extraLines_eq]
  have missingCount : diff.missingCount = expecteds.length - actuals.length := by
    simp [Diff.missingCount, compares.missingLines_eq]
  have pairCount := compares.matchedCount_add_mismatchedCount
  have length := compares.length_eq
  omega

/-- With a placeholder that is a text, any documented engine makes the detailed report
on an analysis. Its lines are the headline, a block for each line of the diff, which
opens with a separator and the number of the line, and a summary whose counts add up to
the number of blocks. How many lines a block has depends on what became of its line, on
the number of captures and on whether there is a hint, and on no text of the line. -/
theorem lines_of_report
    {engine : Template.Engine}
    {expected actual : Option Text}
    {journal : Log.Journal}
    {header : Value}
    (documented : engine.Documented)
    (textual : Settings.Kind.text.admits analyzer.placeholder = true)
    (succeeded : (analyzer.analyze expected actual).outcome journal = .ok diff)
    (single : .character '\n' ∉ header.points) :
    ∃ report blocks, Report.render engine .detailed header diff = .ok report ∧
      List.Forall₂ Report.IsBlock diff blocks ∧
      report.splitOn (.character '\n') =
        Report.headline header :: blocks.flatten ++
          [CodePoint.ofText Report.separator, CodePoint.ofText "Summary:".toList,
            Report.countLine LineOutcome.matchMark diff.matchedCount "matched",
            Report.countLine LineOutcome.mismatchMark diff.mismatchedCount "mismatched",
            Report.countLine ['+'] diff.extraCount "extra",
            Report.countLine ['-'] diff.missingCount "missing"] ++ [[]] ∧
      diff.matchedCount + diff.mismatchedCount + diff.extraCount + diff.missingCount =
        blocks.length := by
  have compares := outcome_analyze_eq_ok_iff.mp succeeded
  have displayable : Report.Displayable analyzer.placeholder := by
    by_contra hidden
    simp [(Report.not_text_of_not_displayable hidden).2] at textual
  have presentable : ∀ line ∈ diff, line.Presentable :=
    compares.forall_mem presentable_extraLine presentable_missingLine
      (presentable_lineOutcome displayable)
  obtain ⟨lines, shown⟩ := Report.exists_detailedLines
    (fun line present => (presentable line present).captures) header
  have shows : Report.render engine .detailed header diff = .ok (Report.ended lines) := by
    rw [Report.render_detailed documented, shown]
    rfl
  obtain ⟨blocks, shapes, split⟩ := Report.lines_of_detailedLines presentable single shown
  exact ⟨_, blocks, shows, shapes, split,
    compares.counts_eq_length.trans shapes.length_eq⟩

/-- A placeholder with a line feed in it stands for the capture of a line that matches.
With its line, one that gets a hint and one too many, the blocks have seven, seven and
five lines. -/
theorem lines_of_report_example :
    let analyzer : Analyzer :=
      { placeholder := .text "p\nq", extract := fun _ _ => .noMatch }
    ∃ diff : Diff, (analyzer.analyze (some "*\nb?".toList)
      (some "a\nc\nd".toList)).outcome .empty =
        .ok diff ∧
      ∃ (report : Points) (blocks : List (List Points)),
        Report.render Template.engine .detailed (.text "h") diff = .ok report ∧
        (report.splitOn (.character '\n')).length = 1 + (7 + 7 + 5) + 6 + 1 ∧
        blocks.map List.length = [7, 7, 5] := by
  intro analyzer
  let run : Pattern := ⟨"*".toList, some '\\', .none, [.star], by decide, by decide⟩
  let two : Pattern :=
    ⟨"b?".toList, some '\\', .none, [.literal 'b', .question], by decide, by decide⟩
  have compares : analyzer.Compares 1 (Lines.ofText? (some "*\nb?".toList))
      (Lines.ofText? (some "a\nc\nd".toList))
      [analyzer.lineOutcome 1 run "*".toList "a".toList,
        analyzer.lineOutcome 2 two "b?".toList "c".toList, extraLine 3 "d".toList] :=
    .paired rfl (.paired rfl (.extra .done))
  have succeeded := compares.gives_analyze .empty
  refine ⟨_, succeeded, ?_⟩
  obtain ⟨report, blocks, shows, shapes, split, -⟩ :=
    lines_of_report Template.documented_engine rfl succeeded
      (show .character '\n' ∉ (Value.text "h").points by decide)
  have heights : blocks.map List.length = [7, 7, 5] := by
    rw [Report.map_length_of_isBlock shapes]
    decide +kernel
  refine ⟨report, blocks, shows, ?_, heights⟩
  rw [split]
  simp [List.length_flatten, heights]

end Analyzer
end WildcardDiff
