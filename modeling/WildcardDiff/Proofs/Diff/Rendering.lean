import WildcardDiff.Diff.Report
import WildcardDiff.Proofs.Except

/-!
# The templates of reports

The sources of the two layouts are read as templates. What these come to in the scope of
a diff is written down line by line, and the report that any engine makes is the lines
one after the other.
-/

namespace WildcardDiff

/-- A literal text has the characters that it is made of. -/
theorem toList_of_eq_ofList
    {literal : String}
    {chars : Text}
    (same : literal = String.ofList chars) :
    literal.toList = chars := by
  rw [same, String.toList_ofList]

namespace Template

variable {filters : Filters} {scope : Scope} {rest : Template}

/-! ## Rendering step by step -/

theorem render_nil : nil.render filters scope = .ok [] := rfl

theorem render_text (content : String) :
    (text content rest).render filters scope =
      (rest.render filters scope).map (CodePoint.ofText content.toList ++ ·) := by
  unfold text
  induction content.toList with
  | nil =>
      rw [List.foldr_nil]
      cases rest.render filters scope <;> rfl
  | cons first chars inductionHypothesis =>
      rw [List.foldr_cons, render, inductionHypothesis]
      cases rest.render filters scope <;> rfl

/-- A gap without a filter shows the value that it refers to. -/
theorem render_gap
    {reference : Reference}
    {value : Value}
    (leads : reference.follow scope = .ok (.value value)) :
    (gap reference none rest).render filters scope =
      (rest.render filters scope).map (value.points ++ ·) := by
  rw [render, shown, leads]
  cases rest.render filters scope <;> rfl

/-- A gap with a filter shows what the filter makes of the item. -/
theorem render_filtered
    {reference : Reference}
    {name : String}
    {item : Item}
    {apply : Item → Except FilterError Points}
    (leads : reference.follow scope = .ok item)
    (named : filters.lookup name = some apply) :
    (gap reference (some name) rest).render filters scope =
      (apply item).mapError .filter >>= fun shown =>
        (rest.render filters scope).map (shown ++ ·) := by
  simp only [render, shown, leads, named]
  cases apply item with
  | error error => rfl
  | ok shown => cases rest.render filters scope <;> rfl

/-- A loop comes to its bodies, one after the other. -/
theorem render_loop
    {name : String}
    {reference : Reference}
    {body : Template}
    {α : Type}
    {items : List α}
    {item : α → Item}
    (leads : reference.follow scope = .ok (.list (items.map item))) :
    (loop name reference body rest).render filters scope =
      (items.mapM fun one => body.render filters ((name, item one) :: scope)).map
        List.flatten >>=
        fun bodies => (rest.render filters scope).map (bodies ++ ·) := by
  have listed : reference.items scope = .ok (items.map item) := by
    rw [Reference.items, leads]
    rfl
  have bodies : (items.map item).mapM
      (fun item => body.render filters ((name, item) :: scope)) =
        items.mapM fun one => body.render filters ((name, item one) :: scope) :=
    List.mapM_map
  rw [render, listed]
  dsimp only [bind, Except.bind]
  rw [bodies]
  cases items.mapM fun one => body.render filters ((name, item one) :: scope) with
  | error error => rfl
  | ok parts => cases rest.render filters scope <;> rfl

section

variable {condition : Reference} {body otherwise : Template} {item : Item}

/-- A choice with nothing behind it comes to its body if its condition holds. -/
theorem render_choice_of_true
    (leads : condition.follow scope = .ok item)
    (holds : item.isTruthy = true) :
    (choice condition body otherwise .nil).render filters scope =
      body.render filters scope := by
  rw [render, leads]
  dsimp only [bind, Except.bind]
  rw [if_pos holds]
  cases body.render filters scope <;> simp [render, pure, Except.pure]

/-- A choice with nothing behind it comes to what is to be done otherwise. -/
theorem render_choice_of_false
    (leads : condition.follow scope = .ok item)
    (fails : item.isTruthy = false) :
    (choice condition body otherwise .nil).render filters scope =
      otherwise.render filters scope := by
  rw [render, leads]
  dsimp only [bind, Except.bind]
  rw [if_neg (Bool.eq_false_iff.mp fails)]
  cases otherwise.render filters scope <;> simp [render, pure, Except.pure]

end

end Template

namespace Report

open Template (text)

/-! ## What the sources are read as -/

/-- A gap that shows what a name stands for. -/
def nameGap (name : String) (rest : Template) : Template :=
  .gap ⟨name, []⟩ none rest

/-- A gap that shows a field. -/
def fieldGap (name field : String) (rest : Template) : Template :=
  .gap ⟨name, [field]⟩ none rest

/-- A gap that displays a field on one line. -/
def displayGap (name field : String) (rest : Template) : Template :=
  .gap ⟨name, [field]⟩ (some "display") rest

/-- The mark and the reason of a line without a counterpart. -/
def unpairedTemplate : Template :=
  text "Match   : " <| nameGap "mismatch_marker" <| text " (" <|
    fieldGap "line" "mismatch_reason" <| text ")\n" .nil

/-- What a block says of an extra line. -/
def extraTemplate : Template :=
  text "Expected: <no more lines>\nActual  : " <| displayGap "line" "actual_line" <|
    text "\n" unpairedTemplate

/-- What a block says of a missing line. -/
def missingTemplate : Template :=
  text "Expected: " <| displayGap "line" "expected_line" <|
    text "\nActual  : <missing line>\n" unpairedTemplate

/-- The two texts of a line, in front of what else is said of it. -/
def pairTemplate (rest : Template) : Template :=
  text "Expected: " <| displayGap "line" "expected_line" <|
    text "\nActual  : " <| displayGap "line" "actual_line" <| text "\nMatch   : " rest

/-- A line for each capture. -/
def capturesTemplate : Template :=
  text "Wildcard matches:\n" <|
    .loop "capture" ⟨"line", ["wildcard_captures"]⟩
      (text "  * => \"" <| .gap ⟨"capture", []⟩ (some "display") <| text "\"\n" .nil) .nil

/-- What a block says of a match. -/
def matchedTemplate : Template :=
  pairTemplate <| nameGap "match_marker" <| text "\n" <|
    .choice ⟨"line", ["wildcard_captures"]⟩ capturesTemplate .nil .nil

/-- What a block says of a mismatch. -/
def mismatchedTemplate : Template :=
  pairTemplate <| nameGap "mismatch_marker" <| text "\nReason  : " <|
    fieldGap "line" "mismatch_reason" <| text "\n" <|
      .choice ⟨"line", ["mismatch_hint"]⟩
        (text "Hint    : " <| fieldGap "line" "mismatch_hint" <| text "\n" .nil) .nil .nil

/-- What a block says of the texts of a line. -/
def outcomeTemplate : Template :=
  .choice ⟨"line", ["is_extra"]⟩ extraTemplate
    (.choice ⟨"line", ["is_missing"]⟩ missingTemplate
      (.choice ⟨"line", ["is_match"]⟩ matchedTemplate mismatchedTemplate .nil) .nil) .nil

/-- The block on a line. -/
def blockTemplate : Template :=
  nameGap "separator" <| text "\nLine " <| fieldGap "line" "line_number" <| text ":\n"
    outcomeTemplate

/-- The block with the counts. -/
def summaryTemplate : Template :=
  nameGap "separator" <| text "\nSummary:\n  " <|
    nameGap "match_marker" <| text " " <|
      fieldGap "result" "matched_count" <| text " matched\n  " <|
    nameGap "mismatch_marker" <| text " " <|
      fieldGap "result" "mismatched_count" <| text " mismatched\n  + " <|
      fieldGap "result" "extra_count" <| text " extra\n  - " <|
      fieldGap "result" "missing_count" <| text " missing\n" .nil

/-- The template of the detailed layout. -/
def detailedTemplate : Template :=
  nameGap "header" <|
    text ": Output does not match expected pattern using wildcards.\n" <|
      .loop "line" ⟨"result", ["line_results"]⟩ blockTemplate summaryTemplate

/-- The template of the plain layout. -/
def plainTemplate : Template :=
  nameGap "header" <|
    text ": Output does not match expected pattern using wildcards.\n" <|
      nameGap "separator" <| text "\nExpected:\n" <|
      fieldGap "result" "expected_text" <| text "\n" <|
      nameGap "separator" <| text "\nActual  :\n" <|
      fieldGap "result" "actual_text" <| text "\n" <|
      nameGap "separator" <| text "\n" .nil

set_option maxRecDepth 8000 in
theorem read_plainSource :
    Template.read rules Layout.plain.source = some plainTemplate := by
  unfold Layout.source
  rw [toList_of_eq_ofList (show plainSource = String.ofList _ from rfl)]
  decide +kernel

set_option maxRecDepth 8000 in
theorem read_detailedSource :
    Template.read rules Layout.detailed.source = some detailedTemplate := by
  unfold Layout.source
  rw [toList_of_eq_ofList (show detailedSource = String.ofList _ from rfl)]
  decide +kernel

/-! ## The lines of a report -/

/-- Lines one after the other, each with a line feed at its end. -/
def ended (lines : List Points) : Points :=
  lines.flatMap (· ++ [.character '\n'])

/-- A text that may be missing, on one line. -/
def displayed (text : Option Text) : Points :=
  text.elim (CodePoint.ofText "<null>".toList) fun text =>
    displayPoints (CodePoint.ofText text)

/-- A text that may be missing, as it is. -/
def remark (text : Option Text) : Points :=
  CodePoint.ofText (text.getD "None".toList)

/-- The first line of a report. -/
def headline (header : Value) : Points :=
  header.points ++
    CodePoint.ofText ": Output does not match expected pattern using wildcards.".toList

/-- The line that shows the expected text. -/
def expectedLine (line : LineOutcome) : Points :=
  CodePoint.ofText "Expected: ".toList ++ displayed line.expected

/-- The line that shows the actual text. -/
def actualLine (line : LineOutcome) : Points :=
  CodePoint.ofText "Actual  : ".toList ++ displayed line.actual

/-- The line that shows the mark of a match. -/
def matchLine : Points :=
  CodePoint.ofText ("Match   : ".toList ++ LineOutcome.matchMark)

/-- The line that shows the mark of a mismatch. -/
def mismatchLine : Points :=
  CodePoint.ofText ("Match   : ".toList ++ LineOutcome.mismatchMark)

/-- The line that shows the mark and the reason of a line without a counterpart. -/
def unpairedLine (line : LineOutcome) : Points :=
  mismatchLine ++ CodePoint.ofText " (".toList ++ remark line.reason ++
    CodePoint.ofText ")".toList

/-- The line that shows a capture. -/
def captureLine (capture : Value) : Except Template.FilterError Points := do
  let shown ← displayValue capture
  return CodePoint.ofText "  * => \"".toList ++ shown ++ CodePoint.ofText "\"".toList

/-- The lines that show captures, under a heading if there are any. -/
def captureLines (captures : List Value) : Except Template.FilterError (List Points) := do
  let lines ← captures.mapM captureLine
  return if captures.isEmpty then []
    else CodePoint.ofText "Wildcard matches:".toList :: lines

/-- The lines on a mismatch: the reason, and the hint if there is one. -/
def reasonLines (line : LineOutcome) : List Points :=
  let hint := line.hint.getD []
  (CodePoint.ofText "Reason  : ".toList ++ remark line.reason) ::
    if hint = [] then [] else [CodePoint.ofText ("Hint    : ".toList ++ hint)]

/-- The lines on the texts of an outcome. -/
def outcomeLines (line : LineOutcome) : Except Template.FilterError (List Points) :=
  if line.isExtra then
    .ok [CodePoint.ofText "Expected: <no more lines>".toList, actualLine line,
      unpairedLine line]
  else if line.isMissing then
    .ok [expectedLine line, CodePoint.ofText "Actual  : <missing line>".toList,
      unpairedLine line]
  else if line.isMatch then
    (captureLines line.captures).map
      ([expectedLine line, actualLine line, matchLine] ++ ·)
  else
    .ok ([expectedLine line, actualLine line, mismatchLine] ++ reasonLines line)

/-- The first lines of the block on a line. -/
def opening (line : LineOutcome) : List Points :=
  [CodePoint.ofText separator,
    CodePoint.ofText ("Line ".toList ++ Digit.ofInt line.number ++ ":".toList)]

/-- The block on a line of a diff. -/
def block (line : LineOutcome) : Except Template.FilterError (List Points) :=
  (outcomeLines line).map (opening line ++ ·)

/-- A line of the summary: a mark, a count and what is counted. -/
def countLine (mark : Text) (count : Nat) (counted : String) : Points :=
  CodePoint.ofText
    ("  ".toList ++ mark ++ " ".toList ++ Digit.ofNat count ++ " ".toList ++
    counted.toList)

/-- The block with the counts of a diff. -/
def summary (diff : Diff) : List Points :=
  [CodePoint.ofText separator, CodePoint.ofText "Summary:".toList,
    countLine LineOutcome.matchMark diff.matchedCount "matched",
    countLine LineOutcome.mismatchMark diff.mismatchedCount "mismatched",
    countLine ['+'] diff.extraCount "extra",
    countLine ['-'] diff.missingCount "missing"]

/-- The lines of the detailed layout. -/
def detailedLines
    (header : Value)
    (diff : Diff) :
    Except Template.FilterError (List Points) := do
  let blocks ← diff.mapM block
  return headline header :: blocks.flatten ++ summary diff

/-- The lines of the plain layout. -/
def plainLines (header : Value) (diff : Diff) : List Points :=
  [headline header, CodePoint.ofText separator, CodePoint.ofText "Expected:".toList,
    CodePoint.ofText diff.expectedText, CodePoint.ofText separator,
    CodePoint.ofText "Actual  :".toList, CodePoint.ofText diff.actualText,
    CodePoint.ofText separator]

/-! ## What the templates come to -/

theorem displayItem_optionalItem (text : Option Text) :
    displayItem (optionalItem text) = .ok (displayed text) := by
  cases text with
  | none => rfl
  | some text =>
      exact congrArg (fun chars => Except.ok (displayPoints (CodePoint.ofText chars)))
        String.toList_ofList

theorem points_elim (text : Option Text) :
    (text.elim Value.null Value.ofText).points = remark text := by
  cases text with
  | none => rfl
  | some text => exact Value.points_ofText text

/-- The text that lines come to, or the failure of the filter that stops them. -/
def Comes (lines : Except Template.FilterError (List Points)) :
    Except Template.Trouble Points :=
  (lines.map ended).mapError .filter

section

variable (line : LineOutcome) (header : Value) (diff : Diff)

/-- What names stand for in the block on a line. -/
def blockScope : Template.Scope :=
  ("line", lineItem line) :: scope header diff

theorem render_extraTemplate :
    extraTemplate.render filters (blockScope line header diff) =
      .ok (ended [CodePoint.ofText "Expected: <no more lines>".toList, actualLine line,
        unpairedLine line]) := by
  unfold extraTemplate unpairedTemplate displayGap nameGap fieldGap
  rw [Template.render_text, Template.render_filtered rfl rfl, displayItem_optionalItem,
    Template.render_text, Template.render_text, Template.render_gap rfl,
    Template.render_text,
    Template.render_gap rfl, Template.render_text, Template.render_nil]
  refine congrArg Except.ok ?_
  simp [ended, actualLine, unpairedLine, mismatchLine, points_elim]

theorem render_missingTemplate :
    missingTemplate.render filters (blockScope line header diff) =
      .ok (ended [expectedLine line, CodePoint.ofText "Actual  : <missing line>".toList,
        unpairedLine line]) := by
  unfold missingTemplate unpairedTemplate displayGap nameGap fieldGap
  rw [Template.render_text, Template.render_filtered rfl rfl, displayItem_optionalItem,
    Template.render_text, Template.render_text, Template.render_gap rfl,
    Template.render_text,
    Template.render_gap rfl, Template.render_text, Template.render_nil]
  refine congrArg Except.ok ?_
  simp [ended, expectedLine, unpairedLine, mismatchLine, points_elim]

theorem render_pairTemplate (rest : Template) :
    (pairTemplate rest).render filters (blockScope line header diff) =
      (rest.render filters (blockScope line header diff)).map
        (ended [expectedLine line, actualLine line] ++
          CodePoint.ofText "Match   : ".toList ++ ·) := by
  unfold pairTemplate displayGap
  rw [Template.render_text, Template.render_filtered rfl rfl, displayItem_optionalItem,
    Template.render_text, Template.render_filtered rfl rfl, displayItem_optionalItem,
    Template.render_text]
  cases rest.render filters (blockScope line header diff) with
  | error trouble => rfl
  | ok others =>
      refine congrArg Except.ok ?_
      simp [ended, expectedLine, actualLine]

/-- The body for a capture comes to its line. -/
theorem render_capture (capture : Value) (outer : Template.Scope) :
    (text "  * => \"" <| .gap ⟨"capture", []⟩ (some "display") <|
      text "\"\n" .nil).render filters
        (("capture", .value capture) :: outer) =
      ((captureLine capture).map (· ++ [.character '\n'])).mapError .filter := by
  rw [Template.render_text, Template.render_filtered rfl rfl, Template.render_text,
    Template.render_nil]
  change _ = ((displayItem (.value capture) >>= fun shown => pure _).map _).mapError _
  cases displayItem (.value capture) with
  | error error => rfl
  | ok shown =>
      refine congrArg Except.ok ?_
      simp

theorem flatten_map_ended (blocks : List (List Points)) :
    (blocks.map ended).flatten = ended blocks.flatten := by
  induction blocks with
  | nil => rfl
  | cons lines blocks inductionHypothesis =>
      rw [List.map_cons, List.flatten_cons, inductionHypothesis]
      simp [ended]

/-- What comes to lines item by item comes to all of them. -/
theorem mapM_comes
    {α : Type}
    (lines : α → Except Template.FilterError (List Points))
    (items : List α) :
    (items.mapM fun item => Comes (lines item)).map List.flatten =
      Comes ((items.mapM lines).map List.flatten) := by
  unfold Comes
  rw [mapM_map_mapError]
  cases items.mapM lines with
  | error error => rfl
  | ok blocks => exact congrArg Except.ok (flatten_map_ended blocks)

theorem render_capturesTemplate :
    capturesTemplate.render filters (blockScope line header diff) =
      Comes ((line.captures.mapM captureLine).map
        (CodePoint.ofText "Wildcard matches:".toList :: ·)) := by
  unfold capturesTemplate
  have toCaptures : Template.Reference.follow ⟨"line", ["wildcard_captures"]⟩
      (blockScope line header diff) = .ok (.list (line.captures.map Item.value)) := rfl
  rw [Template.render_text, Template.render_loop toCaptures, Template.render_nil]
  simp only [render_capture]
  rw [mapM_map_mapError]
  cases line.captures.mapM captureLine with
  | error error => rfl
  | ok lines =>
      refine congrArg Except.ok ?_
      simp [ended, List.flatMap_def]

theorem render_matchedTemplate :
    matchedTemplate.render filters (blockScope line header diff) =
      Comes ((captureLines line.captures).map
        ([expectedLine line, actualLine line, matchLine] ++ ·)) := by
  unfold matchedTemplate nameGap captureLines
  rw [render_pairTemplate, Template.render_gap rfl, Template.render_text]
  cases given : line.captures with
  | nil =>
      rw [Template.render_choice_of_false rfl (by rw [given]; rfl), Template.render_nil]
      refine congrArg Except.ok ?_
      simp [ended, matchLine]
  | cons first others =>
      rw [Template.render_choice_of_true rfl (by rw [given]; rfl),
        render_capturesTemplate, given]
      cases (first :: others).mapM captureLine with
      | error error => rfl
      | ok lines =>
          refine congrArg Except.ok ?_
          simp [ended, matchLine]

theorem isTruthy_optionalItem (text : Option Text) :
    (optionalItem text).isTruthy = !(text.getD []).isEmpty := by
  cases text with
  | none => rfl
  | some text =>
      cases text <;> simp [optionalItem, Item.isTruthy, Value.isTruthy, Value.ofText]

theorem render_mismatchedTemplate :
    mismatchedTemplate.render filters (blockScope line header diff) =
      .ok (ended ([expectedLine line, actualLine line, mismatchLine] ++
        reasonLines line)) := by
  unfold mismatchedTemplate nameGap fieldGap reasonLines
  rw [render_pairTemplate, Template.render_gap rfl, Template.render_text,
    Template.render_gap rfl, Template.render_text, points_elim]
  have told := isTruthy_optionalItem line.hint
  cases hint : line.hint.getD [] with
  | nil =>
      rw [hint] at told
      rw [Template.render_choice_of_false rfl told, Template.render_nil]
      refine congrArg Except.ok ?_
      simp [ended, mismatchLine]
  | cons first others =>
      rw [hint] at told
      have shown : remark line.hint = CodePoint.ofText (first :: others) := by
        cases given : line.hint with
        | none =>
            rw [given] at hint
            cases hint
        | some text =>
            rw [given] at hint
            exact congrArg CodePoint.ofText hint
      rw [Template.render_choice_of_true rfl told, Template.render_text,
        Template.render_gap rfl,
        Template.render_text, Template.render_nil, points_elim, shown]
      refine congrArg Except.ok ?_
      simp [ended, mismatchLine]

theorem render_outcomeTemplate :
    outcomeTemplate.render filters (blockScope line header diff) =
      Comes (outcomeLines line) := by
  unfold outcomeTemplate outcomeLines
  have toExtra : Template.Reference.follow ⟨"line", ["is_extra"]⟩
      (blockScope line header diff) = .ok (.value (.bool line.isExtra)) := rfl
  have toMissing : Template.Reference.follow ⟨"line", ["is_missing"]⟩
      (blockScope line header diff) = .ok (.value (.bool line.isMissing)) := rfl
  have toMatch : Template.Reference.follow ⟨"line", ["is_match"]⟩
      (blockScope line header diff) = .ok (.value (.bool line.isMatch)) := rfl
  cases extra : line.isExtra with
  | true =>
      rw [Template.render_choice_of_true toExtra extra]
      exact render_extraTemplate line header diff
  | false =>
      rw [Template.render_choice_of_false toExtra extra]
      cases missing : line.isMissing with
      | true =>
          rw [Template.render_choice_of_true toMissing missing]
          exact render_missingTemplate line header diff
      | false =>
          rw [Template.render_choice_of_false toMissing missing]
          cases matched : line.isMatch with
          | true =>
              rw [Template.render_choice_of_true toMatch matched]
              exact render_matchedTemplate line header diff
          | false =>
              rw [Template.render_choice_of_false toMatch matched]
              exact render_mismatchedTemplate line header diff

/-- The body of the loop comes to the block on a line. -/
theorem render_blockTemplate :
    blockTemplate.render filters (blockScope line header diff) = Comes (block line) := by
  unfold blockTemplate nameGap fieldGap block
  rw [Template.render_gap rfl, Template.render_text, Template.render_gap rfl,
    Template.render_text, render_outcomeTemplate]
  cases outcomeLines line with
  | error error => rfl
  | ok lines =>
      refine congrArg Except.ok ?_
      simp [ended, opening]

end

variable (header : Value) (diff : Diff)

theorem render_summaryTemplate :
    summaryTemplate.render filters (scope header diff) = .ok (ended (summary diff)) := by
  unfold summaryTemplate nameGap fieldGap
  rw [Template.render_gap rfl, Template.render_text, Template.render_gap rfl,
    Template.render_text,
    Template.render_gap rfl, Template.render_text, Template.render_gap rfl,
    Template.render_text,
    Template.render_gap rfl, Template.render_text, Template.render_gap rfl,
    Template.render_text,
    Template.render_gap rfl, Template.render_text, Template.render_nil]
  refine congrArg Except.ok ?_
  simp [ended, summary, countLine]

/-- The template of the detailed layout comes to its lines, or fails at a capture. -/
theorem render_detailedTemplate :
    detailedTemplate.render filters (scope header diff) =
      Comes (detailedLines header diff) := by
  unfold detailedTemplate nameGap detailedLines
  have toLines : Template.Reference.follow ⟨"result", ["line_results"]⟩
      (scope header diff) = .ok (.list (diff.map lineItem)) := rfl
  rw [Template.render_gap rfl, Template.render_text, Template.render_loop toLines,
    render_summaryTemplate]
  have blocks : ∀ line, blockTemplate.render filters
      (("line", lineItem line) :: scope header diff) = Comes (block line) :=
    fun line => render_blockTemplate line header diff
  simp only [blocks]
  rw [mapM_comes]
  cases diff.mapM block with
  | error error => rfl
  | ok blocks =>
      refine congrArg Except.ok ?_
      simp [ended, headline]

theorem render_plainTemplate :
    plainTemplate.render filters (scope header diff) =
      .ok (ended (plainLines header diff)) := by
  unfold plainTemplate nameGap fieldGap
  rw [Template.render_gap rfl, Template.render_text, Template.render_gap rfl,
    Template.render_text,
    Template.render_gap rfl, Template.render_text, Template.render_gap rfl,
    Template.render_text,
    Template.render_gap rfl, Template.render_text, Template.render_gap rfl,
    Template.render_text, Template.render_nil]
  refine congrArg Except.ok ?_
  simp [ended, plainLines, headline]

end Report
end WildcardDiff
