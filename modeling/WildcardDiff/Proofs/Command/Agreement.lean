import WildcardDiff.Proofs.Command.Ending
import WildcardDiff.Proofs.Command.General
import WildcardDiff.Proofs.Files.Rotation
import WildcardDiff.Proofs.Text.Lines

/-!
# Matching a text and comparing files

Matching a text by a pattern ends as the comparison of two files does, one of which
holds the pattern and the other one the text, as long as each of them is a single line.
Both commands build the same pattern under the same settings, and what they do besides
leaves their end alone: they log, and the comparison reads the files, gives hints and
writes a report. Only two things can come between them. A log that is put aside may take
a file away before it is read, and the standard output may be unable to take the report.
-/

namespace WildcardDiff
namespace Command

/-- Whether a name leads to a file at a place that holds a single line and nothing else,
not even a line break. -/
structure Surroundings.HasLine
    (surroundings : Surroundings)
    (name : Text)
    (place : Place)
    (line : Text) : Prop where
  named : name ≠ inputName
  finds : surroundings.files.find name = .ok (place, .text line)
  held : line ≠ []
  unbroken : Lines.Unbroken line

theorem Surroundings.HasLine.ofText_eq
    {surroundings : Surroundings}
    {name line : Text}
    {place : Place}
    (has : surroundings.HasLine name place line) :
    Lines.ofText line = [line] :=
  Lines.ofText_of_unbroken has.held has.unbroken

/-! ## What both tasks come to -/

/-- The code that the match of a text by a pattern ends with, under the settings. -/
def verdict (layers : Settings.Layers) (pattern text : Text) : Except Failure Nat :=
  ((Pattern.ofValues (.ofText pattern) (layers.choose .escapeCharacter .null)
      (.int layers.patternOptions.bits)).mapError .badPattern).map fun built =>
    if built.isMatch text then matchCode else mismatchCode

/-- How a run ends that comes to a code or a failure. -/
def Ending.ofVerdict : Except Failure Nat → Ending
  | .ok number => .code number
  | .error failure =>
      if failure.message?.isSome then .code failureCode else .failed failure

namespace Session

/-- Whether a task comes to a code or a failure, whatever was logged before. -/
def Comes (action : Session Result) (outcome : Except Failure Nat) : Prop :=
  action.Ends (fun result => outcome = .ok result.code) fun failure =>
    outcome = .error failure

/-- Every computation ends, with a value or with a failure. -/
theorem ends_anyhow {action : Session α} :
    action.Ends (fun _ => True) fun _ => True := by
  intro journal
  split <;> trivial

end Session

theorem Outcome.ending_ofResult
    (result : Except Failure Result)
    (log : Text)
    (files : Files) :
    (ofResult result log files).ending = .ofVerdict (result.map Result.code) := by
  unfold ofResult
  cases result with
  | ok result => rfl
  | error failure =>
      unfold Ending.ofVerdict Except.map
      dsimp only
      cases failure.message? <;> rfl

/-- Only a task that comes to the code of a mismatch ends with it. -/
theorem Ending.eq_ok_of_ofVerdict
    {outcome : Except Failure Nat}
    (ended : (ofVerdict outcome).code? = some mismatchCode) :
    outcome = .ok mismatchCode := by
  unfold ofVerdict at ended
  cases outcome with
  | ok number => exact congrArg Except.ok (Option.some.inj ended)
  | error failure =>
      dsimp only at ended
      split at ended <;> cases ended

/-- A run whose task comes to a code or a failure ends accordingly. -/
theorem Surroundings.ending_of_comes
    {surroundings : Surroundings}
    {invocation : Invocation}
    {context : Context}
    {outcome : Except Failure Nat}
    (found : surroundings.context invocation = .ok context)
    (comes : (context.perform invocation.task).Comes outcome) :
    (surroundings.carryOut invocation).ending = .ofVerdict outcome := by
  have came := comes .empty
  unfold carryOut
  rw [found]
  dsimp only
  rcases ran : (context.perform invocation.task).run.run .empty with ⟨result, journal⟩
  rw [ran] at came
  rw [Outcome.ending_ofResult]
  cases result with
  | ok result =>
      obtain rfl := came
      rfl
  | error failure =>
      obtain rfl := came
      rfl

namespace Context

variable {context : Context} {pattern text : Text}

/-! ## Matching -/

theorem verdict_eq
    {layers : Settings.Layers}
    {built : Except PatternError Pattern}
    (builds : Pattern.ofValues (.ofText pattern) (layers.choose .escapeCharacter .null)
      (.int layers.patternOptions.bits) = built) :
    verdict layers pattern text =
      (built.mapError Failure.badPattern).map fun built =>
        if built.isMatch text then matchCode else mismatchCode := by
  unfold verdict
  rw [builds]

theorem ends_pattern_verdict (context : Context) (pattern text : Text) :
    (context.pattern (.ofText pattern)).Ends
      (fun built => Pattern.ofValues (.ofText pattern)
        (context.layers.choose .escapeCharacter .null)
        (.int context.layers.patternOptions.bits) = .ok built)
      fun failure => verdict context.layers pattern text = .error failure := by
  refine (ends_pattern context (.ofText pattern)).imp (fun _ => id) ?_
  rintro _ ⟨error, refused, rfl⟩
  rw [verdict_eq refused]
  rfl

theorem comes_matchText (context : Context) (pattern text : Text) :
    (context.matchText (.ofText pattern) (.ofText text)).Comes
      (verdict context.layers pattern text) := by
  refine (ends_pattern_verdict context pattern text).bind fun built builds => ?_
  have same : built.matchesValue (.ofText text) = built.isMatch text :=
    congrArg built.isMatch String.toList_ofList
  refine ends_log.bind fun _ _ => Session.ends_pure ?_
  rw [verdict_eq builds, same]
  rfl

/-! ## Comparing -/

/-- Whether the log, if it goes to a file, leaves the way to a name alone, as do its
backups. -/
def LeavesAlone (context : Context) (name : Text) : Prop :=
  ∀ log, context.choice.file = some log →
    ∀ passed ∈ Files.trail name, Files.IsApart log passed

/-- Whether the log goes to another file than the one that a name leads to. -/
def LogsElsewhere (context : Context) (name : Text) : Prop :=
  ∀ log, context.choice.file = some log → ∀ file,
    context.surroundings.files.find name ≠ .ok (log, file)

theorem logsElsewhere_of_hasLine
    {name line : Text}
    {place : Place}
    (has : context.surroundings.HasLine name place line)
    (apart : context.choice.file ≠ some place) :
    context.LogsElsewhere name := by
  intro log chosen file found
  rw [has.finds] at found
  cases found
  exact apart chosen

/-- A file is read as it was found if the log leaves the way to it alone. -/
theorem ends_readText_of_hasLine
    {name line : Text}
    {place : Place}
    (has : context.surroundings.HasLine name place line)
    (apart : context.LeavesAlone name)
    (bad : Failure → Prop) :
    (context.readText (.ofText name)).Ends (fun read => read = line) bad := by
  have still : ∀ journal,
      (context.filesAfter journal).find name = .ok (place, .text line) := by
    intro journal
    unfold filesAfter LogChoice.write
    dsimp only
    split
    · rename_i log chosen
      exact Files.find_addLines (apart log chosen) has.finds _
    · exact has.finds
  refine Session.ends_of_run (fun _ => .ok line) (fun journal => ?_)
    (fun _ read came => (Except.ok.inj came).symm) nofun
  rw [Value.ofText, run_readText, String.toList_ofList, if_neg has.named, still]
  rfl

/-- The report that is made on a mismatch of two texts. -/
def report?
    (context : Context)
    (expected actual : Text)
    (header : Value) : Option Points := do
  let analyzer := context.layers.analyzer context.choice.threshold
  let diff ← ((analyzer.analyze (some expected) (some actual)).outcome .empty).toOption
  if diff.overallMatch then none
  else
    let engine := context.surroundings.libraries.engine
    (Report.render engine context.layout header diff).toOption

theorem report?_eq_some
    {diff : Diff}
    {header : Value}
    {report : Points}
    (analyzed : ((context.layers.analyzer context.choice.threshold).analyze
      (some pattern) (some text)).outcome .empty = .ok diff)
    (mismatched : diff.overallMatch = false)
    (rendered : Report.render context.surroundings.libraries.engine context.layout
      header diff = .ok report) :
    context.report? pattern text header = some report := by
  unfold report?
  dsimp only
  rw [analyzed]
  dsimp only [Except.toOption, bind, Option.bind]
  rw [if_neg (Bool.eq_false_iff.mp mismatched), rendered]

/-- Whether the standard output takes the report on two texts, if there is a mismatch. -/
def CanReport (context : Context) (expected actual : Text) : Prop :=
  ∀ report, context.report? expected actual (.text Report.defaultHeader) = some report →
    context.surroundings.streams.takes report = true

/-- The analysis of two single lines builds the pattern of a match. -/
theorem ends_analyze_verdict
    (has : context.layers.HasDefaults)
    (patternLine : Lines.ofText pattern = [pattern])
    (textLine : Lines.ofText text = [text]) :
    Session.Ends
      (ExceptT.adapt Failure.badPattern
        ((context.layers.analyzer context.choice.threshold).analyze (some pattern)
          (some text)))
      (fun diff => ((context.layers.analyzer context.choice.threshold).analyze
          (some pattern) (some text)).outcome .empty = .ok diff ∧
        verdict context.layers pattern text =
          .ok (if diff.overallMatch then matchCode else mismatchCode) ∧
        (diff.overallMatch = false → ∀ line ∈ diff, line.captures = []))
      fun failure => verdict context.layers pattern text = .error failure := by
  have same : (context.layers.analyzer context.choice.threshold).patternOf pattern =
      Pattern.ofValues (.ofText pattern) (context.layers.choose .escapeCharacter .null)
        (.int context.layers.patternOptions.bits) := by
    unfold Analyzer.patternOf Settings.Layers.analyzer
    rw [has.choose_eq .escapeCharacter _ .null]
  refine (ends_analyze _ _ _).imp ?_ ?_
  · intro diff compares
    refine ⟨compares.gives_analyze .empty, ?_⟩
    rw [Lines.ofText?, Lines.ofText?, Option.getD_some, Option.getD_some, patternLine,
      textLine] at compares
    cases compares with
    | paired accepted rest =>
        cases rest
        rw [same] at accepted
        rw [verdict_eq accepted]
        simp only [Diff.overallMatch, List.all_cons, List.all_nil, Bool.and_true,
          Analyzer.isMatch_lineOutcome]
        refine ⟨rfl, fun mismatched => ?_⟩
        rw [List.forall_mem_singleton, Analyzer.lineOutcome, mismatched]
        rfl
  · rintro _ ⟨error, refuses, rfl⟩
    rw [Lines.ofText?, Lines.ofText?, Option.getD_some, Option.getD_some, patternLine,
      textLine] at refuses
    cases refuses with
    | here refused =>
        rw [same] at refused
        rw [verdict_eq refused]
        rfl
    | later accepted rest => cases rest

theorem comes_compareTexts
    (documented : context.surroundings.libraries.engine.Documented)
    (has : context.layers.HasDefaults)
    {expected actual : Text}
    {expectedPlace actualPlace : Place}
    (expectedLine : context.surroundings.HasLine expected expectedPlace pattern)
    (actualLine : context.surroundings.HasLine actual actualPlace text)
    (expectedApart : context.LeavesAlone expected)
    (actualApart : context.LeavesAlone actual)
    (taken : context.CanReport pattern text) :
    (context.compareTexts (.ofText expected) (.ofText actual)
      (.text Report.defaultHeader)).Comes (verdict context.layers pattern text) := by
  refine (ends_readText_of_hasLine expectedLine expectedApart _).bind ?_
  rintro _ rfl
  refine (ends_readText_of_hasLine actualLine actualApart _).bind ?_
  rintro _ rfl
  refine (ends_analyze_verdict has expectedLine.ofText_eq actualLine.ofText_eq).bind ?_
  rintro diff ⟨analyzed, decided, bare⟩
  split
  · rename_i matched
    refine ends_log.bind fun _ _ => Session.ends_pure ?_
    rw [decided, matched]
    rfl
  · rename_i mismatched
    have mismatched := Bool.eq_false_iff.mpr mismatched
    have displayable : ∀ line ∈ diff, ∀ capture ∈ line.captures,
        Report.Displayable capture := by
      intro line present capture captured
      rw [bare mismatched line present] at captured
      cases captured
    obtain ⟨report, rendered⟩ :=
      Report.exists_render documented displayable context.layout
        (.text Report.defaultHeader)
    have takes := taken report (report?_eq_some analyzed mismatched rendered)
    rw [rendered]
    refine (ends_print context mismatchCode report).imp (fun result coded => ?_) ?_
    · rw [decided, mismatched, coded]
      rfl
    · rintro _ ⟨refused, -⟩
      rw [takes] at refused
      cases refused

/-- A mismatch of two texts is only told together with a report that the output takes. -/
theorem ends_compareTexts_told (context : Context) (expected actual header : Value) :
    (context.compareTexts expected actual header).Ends
      (fun result => result.code = mismatchCode →
        context.surroundings.streams.takes result.output = true)
      fun _ => True := by
  refine Session.ends_anyhow.bind fun expectedText _ => ?_
  refine Session.ends_anyhow.bind fun actualText _ => ?_
  refine Session.ends_anyhow.bind fun diff _ => ?_
  split
  · exact ends_log.bind fun _ _ => Session.ends_pure nofun
  · split
    · rename_i report rendered
      unfold print
      split
      · rename_i taken
        exact Session.ends_pure fun _ => taken
      · exact Session.ends_throw trivial
    · exact Session.ends_throw trivial
    · exact Session.ends_throw trivial

end Context

/-! ## Settings -/

namespace Surroundings

variable {surroundings : Surroundings}

/-- A file that is found is an input file. -/
theorem HasLine.inputFile_eq
    {name line : Text}
    {place : Place}
    (has : surroundings.HasLine name place line) :
    surroundings.inputFile (.ofText name) = .ok name := by
  unfold inputFile Value.ofText
  dsimp only
  rw [String.toList_ofList, if_neg has.named]
  unfold lookUp
  rw [Files.find_tidied has.finds]
  rfl

/-- Two files that are found pass the check of a comparison. -/
theorem checkTask_of_hasLine
    {expected actual expectedLine actualLine : Text}
    {expectedPlace actualPlace : Place}
    (expectedHas : surroundings.HasLine expected expectedPlace expectedLine)
    (actualHas : surroundings.HasLine actual actualPlace actualLine)
    (header : Value) :
    surroundings.checkTask (.comparing (.ofText expected) (.ofText actual) header) =
      .ok () := by
  have different : ¬(expected = inputName ∧ actual = inputName) := fun both =>
    expectedHas.named both.1
  unfold checkTask
  dsimp only
  rw [expectedHas.inputFile_eq, actualHas.inputFile_eq]
  exact if_neg different

theorem hasDefaults_of_context
    {invocation : Invocation}
    {context : Context}
    (found : surroundings.context invocation = .ok context) :
    context.layers.HasDefaults := by
  obtain ⟨⟨config, loaded, -, built, same⟩, -⟩ := loads_of_context found
  rw [same]
  exact (Settings.Layers.hasDefaults_build built).load (by decide) _

/-- What a task finds depends on it only through its check. -/
theorem context_congr
    {first second : Invocation}
    (tree : first.tree = second.tree)
    (escape : first.escape = second.escape)
    (config : first.config = second.config)
    (task : surroundings.checkTask first.task = surroundings.checkTask second.task) :
    surroundings.context first = surroundings.context second := by
  unfold context settings
  rw [tree, escape, config, task]

end Surroundings

/-! ## Runs -/

namespace Surroundings

variable {surroundings : Surroundings} {arguments : List Text} {invocation : Invocation}
  {context : Context} {pattern text : Text}

/-- What the task of a run finds, if the run comes to its task. -/
def context? (surroundings : Surroundings) (arguments : List Text) : Option Context := do
  let invocation ← (surroundings.read arguments).toOption
  (surroundings.context invocation).toOption

theorem surroundings_of_context?
    (found : surroundings.context? arguments = some context) :
    context.surroundings = surroundings := by
  obtain ⟨invocation, -, found⟩ := Option.bind_eq_some_iff.mp found
  cases reached : surroundings.context invocation with
  | error failure =>
      rw [reached] at found
      cases found
  | ok other =>
      rw [reached] at found
      obtain rfl := Option.some.inj found
      exact surroundings_of_context reached

theorem context?_eq_some
    (understood : surroundings.read arguments = .ok invocation)
    (found : surroundings.context invocation = .ok context) :
    surroundings.context? arguments = some context := by
  unfold context?
  rw [understood]
  exact congrArg Except.toOption found

/-- How a run ends that comes to the match of a text by a pattern, or is stopped
before. -/
def verdictEnding
    (surroundings : Surroundings)
    (arguments : List Text)
    (pattern text : Text) : Ending :=
  match surroundings.read arguments with
  | .error halt => (Outcome.ofHalt surroundings.files halt).ending
  | .ok invocation =>
      .ofVerdict ((surroundings.context invocation).bind fun context =>
        verdict context.layers pattern text)

/-- A run whose task comes to a code or a failure ends accordingly, as does one that is
stopped before its task. -/
theorem ending_carryOut
    (come : ∀ context, surroundings.context invocation = .ok context →
      (context.perform invocation.task).Comes (verdict context.layers pattern text)) :
    (surroundings.carryOut invocation).ending =
      .ofVerdict ((surroundings.context invocation).bind fun context =>
        verdict context.layers pattern text) := by
  cases found : surroundings.context invocation with
  | error failure =>
      unfold carryOut
      rw [found]
      exact Outcome.ending_ofResult _ _ _
  | ok context => exact ending_of_comes found (come context found)

/-- Matching a text by a pattern ends with the verdict on them, and so does the
comparison of two files that hold the pattern and the text, with the same general
options in front and in the same surroundings. The log has to be apart from both files,
as have its backups, and the standard output has to take the report if there is a
mismatch. -/
theorem ending_matching_eq_ending_comparing
    (documented : surroundings.libraries.engine.Documented)
    {options : List Text}
    (general : AreGeneral surroundings.libraries.dashes options)
    {expected actual : Text}
    {expectedPlace actualPlace : Place}
    (matching : surroundings.read [Verb.matching.name.toList, pattern, text] =
      .ok (.ofMatch pattern text))
    (comparing : surroundings.read [Verb.comparing.name.toList, expected, actual] =
      .ok (.ofComparison expected actual))
    (expectedHas : surroundings.HasLine expected expectedPlace pattern)
    (actualHas : surroundings.HasLine actual actualPlace text)
    (reached : ∀ context, surroundings.context?
        (options ++ [Verb.comparing.name.toList, expected, actual]) = some context →
      context.LeavesAlone expected ∧ context.LeavesAlone actual ∧
        context.CanReport pattern text) :
    (surroundings.run (options ++ [Verb.matching.name.toList, pattern, text])).ending =
        surroundings.verdictEnding (options ++ [Verb.matching.name.toList, pattern, text])
          pattern text ∧
      (surroundings.run
        (options ++ [Verb.comparing.name.toList, expected, actual])).ending =
        surroundings.verdictEnding (options ++ [Verb.matching.name.toList, pattern, text])
          pattern text := by
  obtain ⟨outcome, reads⟩ := Invocation.exists_read_append general
  have matchingRead := reads .matching _ _ matching
  have comparingRead := reads .comparing _ _ comparing
  unfold verdictEnding
  cases outcome with
  | error halt =>
      unfold run read
      rw [matchingRead, comparingRead]
      exact ⟨rfl, rfl⟩
  | ok reading =>
      have checked :=
        checkTask_of_hasLine expectedHas actualHas (.text Report.defaultHeader)
      have same :
          surroundings.context ((Invocation.ofMatch pattern text).withGeneral reading) =
            surroundings.context
              ((Invocation.ofComparison expected actual).withGeneral reading) :=
        context_congr rfl rfl rfl checked.symm
      rw [run_of_read matchingRead, run_of_read comparingRead]
      unfold read
      rw [matchingRead]
      dsimp only [Except.map]
      constructor
      · exact ending_carryOut fun context _ => Context.ends_log.bind fun _ _ =>
          Context.comes_matchText context pattern text
      · rw [same]
        refine ending_carryOut fun context found => Context.ends_log.bind fun _ _ => ?_
        obtain ⟨expectedApart, actualApart, taken⟩ :=
          reached context (context?_eq_some comparingRead found)
        have here := surroundings_of_context found
        rw [← here] at documented expectedHas actualHas
        exact Context.comes_compareTexts documented (hasDefaults_of_context found)
          expectedHas actualHas expectedApart actualApart taken

/-- A comparison that ends with the code of a mismatch has printed a text that the
standard output takes. -/
theorem takes_of_comparing
    {expected actual header : Value}
    (understood : surroundings.read arguments = .ok invocation)
    (task : invocation.task = .comparing expected actual header)
    (ended : (surroundings.run arguments).ending.code? = some mismatchCode) :
    surroundings.streams.takes (surroundings.run arguments).output = true := by
  rw [run_of_read understood] at ended ⊢
  unfold carryOut at ended ⊢
  cases found : surroundings.context invocation with
  | error failure =>
      rw [found] at ended
      dsimp only at ended
      rw [Outcome.ending_ofResult] at ended
      cases Ending.eq_ok_of_ofVerdict ended
  | ok context =>
      have told : (context.perform invocation.task).Ends
          (fun result => result.code = mismatchCode →
            context.surroundings.streams.takes result.output = true)
          fun _ => True := by
        rw [task]
        exact Context.ends_log.bind fun _ _ => context.ends_compareTexts_told _ _ _
      have came := told .empty
      rw [found] at ended
      dsimp only at ended ⊢
      rcases ran : (context.perform invocation.task).run.run .empty with ⟨result, journal⟩
      rw [ran] at ended came
      rw [Outcome.ending_ofResult] at ended
      cases result with
      | error failure => cases Ending.eq_ok_of_ofVerdict ended
      | ok result =>
          rw [← surroundings_of_context found]
          exact came (Except.ok.inj (Ending.eq_ok_of_ofVerdict ended))

/-- Two files in the working directory, and an output that takes everything. -/
def ofLines (pattern text : Text) : Surroundings :=
  { ofFiles (.ofEntries
    [(.ofName ['p'], .text pattern), (.ofName ['t'], .text text)] none) [] with
    streams := ⟨[], fun _ => none, fun _ => true⟩ }

/-- Options that ignore case, and let the log go to a third file. -/
def loggingOptions : List Text :=
  [['-', 'i'], "--log-file".toList, ['l']]

/-- Whether both commands end with a code under these options. -/
def EndAlike (pattern text : Text) (code : Nat) : Prop :=
  ((ofLines pattern text).run
      (loggingOptions ++ [Verb.matching.name.toList, pattern, text])).ending.code? =
        some code ∧
    ((ofLines pattern text).run
      (loggingOptions ++ [Verb.comparing.name.toList, ['p'], ['t']])).ending.code? =
        some code

/-- Both commands find a match, a mismatch, and a pattern that is refused. -/
theorem ending_matching_eq_ending_comparing_logged :
    EndAlike ['a', '*'] ['A', 'B'] matchCode ∧ EndAlike ['a', '*'] ['B'] mismatchCode ∧
      EndAlike ['['] ['a'] failureCode := by
  have alike : ∀ pattern text code,
      IsPlain pattern ∧ pattern ≠ [] ∧ Lines.Unbroken pattern →
      IsPlain text ∧ text ≠ [] ∧ Lines.Unbroken text →
      (((ofLines pattern text).context? (loggingOptions ++
        [Verb.comparing.name.toList, ['p'], ['t']])).map fun context =>
          context.choice.file) =
          some (some (.ofName ['l'])) →
      ((ofLines pattern text).verdictEnding (loggingOptions ++
        [Verb.matching.name.toList, pattern, text]) pattern text).code? = some code →
      EndAlike pattern text code := by
    rintro pattern text code ⟨patternPlain, patternHeld, patternLine⟩
      ⟨textPlain, textHeld, textLine⟩ logged coded
    have documented : (ofLines pattern text).libraries.engine.Documented :=
      Template.documented_engine
    have general : AreGeneral (ofLines pattern text).libraries.dashes loggingOptions := by
      change AreGeneral .kept loggingOptions
      decide +kernel
    have expectedHas : (ofLines pattern text).HasLine ['p'] (.ofName ['p']) pattern :=
      ⟨by decide, rfl, patternHeld, patternLine⟩
    have actualHas : (ofLines pattern text).HasLine ['t'] (.ofName ['t']) text :=
      ⟨by decide, rfl, textHeld, textLine⟩
    obtain ⟨first, second⟩ := ending_matching_eq_ending_comparing documented general
      (Invocation.read_ofMatch patternPlain textPlain)
      (Invocation.read_ofComparison (by decide) (by decide)) expectedHas actualHas (by
        intro context found
        rw [found] at logged
        refine ⟨fun log chosen => ?_, fun log chosen => ?_, fun report made => ?_⟩
        · obtain rfl := Option.some.inj (chosen.symm.trans (Option.some.inj logged))
          decide +kernel
        · obtain rfl := Option.some.inj (chosen.symm.trans (Option.some.inj logged))
          decide +kernel
        · rw [surroundings_of_context? found]
          rfl)
    unfold EndAlike
    rw [first, second]
    exact ⟨coded, coded⟩
  refine ⟨alike _ _ _ ?_ ?_ ?_ ?_, alike _ _ _ ?_ ?_ ?_ ?_, alike _ _ _ ?_ ?_ ?_ ?_⟩
  all_goals decide +kernel

/-- Whether both commands end alike as long as a condition holds of what the comparison
finds, of the two names, and of the two lines. -/
def EndAlikeIf (condition : Context → Text → Text → Text → Text → Prop) : Prop :=
  ∀ (surroundings : Surroundings) (options pattern text expected actual)
      (expectedPlace actualPlace),
    surroundings.libraries.engine.Documented →
    AreGeneral surroundings.libraries.dashes options →
    surroundings.read [Verb.matching.name.toList, pattern, text] =
      .ok (.ofMatch pattern text) →
    surroundings.read [Verb.comparing.name.toList, expected, actual] =
      .ok (.ofComparison expected actual) →
    surroundings.HasLine expected expectedPlace pattern →
    surroundings.HasLine actual actualPlace text →
    (∀ context, surroundings.context?
        (options ++ [Verb.comparing.name.toList, expected, actual]) = some context →
      condition context expected actual pattern text) →
    (surroundings.run (options ++ [Verb.matching.name.toList, pattern, text])).ending =
      (surroundings.run
        (options ++ [Verb.comparing.name.toList, expected, actual])).ending

/-- A log file that is full, and a file with the name of its last backup but one. -/
def withFullLog : Surroundings :=
  ofFiles (.ofEntries
    [(.ofName ['e'], .text ['a']), (.ofName ['l'], .bytes Files.fullSize),
    (.ofName ['l', '.', '2'], .text ['a'])] none) []

/-- Options that let everything be logged, to the file that is full. -/
def fillingOptions : List Text :=
  ["--debug".toList, "--log-file".toList, ['l']]

/-- Two files that do not match, and an output that takes nothing. -/
def withoutOutput : Surroundings :=
  { ofLines ['a'] ['b'] with streams := ⟨[], fun _ => none, fun _ => false⟩ }

/-- Backups of the log can take a file away even if the log itself goes to neither
file. -/
theorem not_endAlikeIf_logsElsewhere :
    ¬EndAlikeIf fun context expected actual pattern text =>
      context.LogsElsewhere expected ∧ context.LogsElsewhere actual ∧
        context.CanReport pattern text := by
  intro claimed
  have expectedHas : withFullLog.HasLine ['e'] (.ofName ['e']) ['a'] :=
    ⟨by decide, rfl, by decide, by decide⟩
  have actualHas : withFullLog.HasLine ['l', '.', '2'] (.ofName ['l', '.', '2']) ['a'] :=
    ⟨by decide, rfl, by decide, by decide⟩
  have same := claimed withFullLog fillingOptions ['a'] ['a'] ['e'] ['l', '.', '2'] _ _
    Template.documented_engine (by decide +kernel)
    (Invocation.read_ofMatch (by decide) (by decide))
    (Invocation.read_ofComparison (by decide) (by decide)) expectedHas actualHas (by
      intro context found
      have logged : ((withFullLog.context? (fillingOptions ++
          [Verb.comparing.name.toList, ['e'], ['l', '.', '2']])).map fun context =>
            context.choice.file) = some (some (.ofName ['l'])) := by
        decide +kernel
      have silent : ((withFullLog.context? (fillingOptions ++
          [Verb.comparing.name.toList, ['e'], ['l', '.', '2']])).bind fun context =>
            context.report? ['a'] ['a'] (.text Report.defaultHeader)) = none := by
        decide +kernel
      rw [found] at logged silent
      have chosen : context.choice.file = some (.ofName ['l']) := Option.some.inj logged
      rw [← surroundings_of_context? found] at expectedHas actualHas
      exact ⟨Context.logsElsewhere_of_hasLine expectedHas (by rw [chosen]; decide),
        Context.logsElsewhere_of_hasLine actualHas (by rw [chosen]; decide),
        fun report made => nomatch silent.symm.trans made⟩)
  have matched : (withFullLog.run (fillingOptions ++
      [Verb.matching.name.toList, ['a'], ['a']])).ending.code? = some matchCode := by
    decide +kernel
  have failed : (withFullLog.run (fillingOptions ++
      [Verb.comparing.name.toList, ['e'], ['l', '.', '2']])).ending.code? =
        some failureCode := by
    decide +kernel
  rw [same, failed] at matched
  cases matched

/-- The output can refuse the report even if the log leaves both files alone. -/
theorem not_endAlikeIf_leavesAlone :
    ¬EndAlikeIf fun context expected actual _ _ =>
      context.LeavesAlone expected ∧ context.LeavesAlone actual := by
  intro claimed
  have expectedHas : withoutOutput.HasLine ['p'] (.ofName ['p']) ['a'] :=
    ⟨by decide, rfl, by decide, by decide⟩
  have actualHas : withoutOutput.HasLine ['t'] (.ofName ['t']) ['b'] :=
    ⟨by decide, rfl, by decide, by decide⟩
  have comparing : withoutOutput.read ([] ++ [Verb.comparing.name.toList, ['p'], ['t']]) =
      .ok (.ofComparison ['p'] ['t']) :=
    Invocation.read_ofComparison (by decide) (by decide)
  have same := claimed withoutOutput [] ['a'] ['b'] ['p'] ['t'] _ _
    Template.documented_engine (by decide +kernel)
    (Invocation.read_ofMatch (by decide) (by decide)) comparing expectedHas actualHas (by
      intro context found
      have logged : ((withoutOutput.context? ([] ++
          [Verb.comparing.name.toList, ['p'], ['t']])).bind fun context =>
            context.choice.file) = none := by
        decide +kernel
      rw [found] at logged
      exact ⟨fun log chosen => (nomatch logged.symm.trans chosen),
        fun log chosen => (nomatch logged.symm.trans chosen)⟩)
  have mismatched : (withoutOutput.run ([] ++
      [Verb.matching.name.toList, ['a'], ['b']])).ending.code? = some mismatchCode := by
    decide +kernel
  rw [same] at mismatched
  cases takes_of_comparing comparing rfl mismatched

/-- A log that goes to neither file is not enough for both commands to end alike, and
neither is one that leaves both files alone, without an output that takes the report. -/
theorem not_ending_matching_eq_ending_comparing :
    (¬EndAlikeIf fun context expected actual pattern text =>
      context.LogsElsewhere expected ∧ context.LogsElsewhere actual ∧
        context.CanReport pattern text) ∧
    ¬EndAlikeIf fun context expected actual _ _ =>
      context.LeavesAlone expected ∧ context.LeavesAlone actual :=
  ⟨not_endAlikeIf_logsElsewhere, not_endAlikeIf_leavesAlone⟩

end Surroundings
end Command
end WildcardDiff
