import WildcardDiff.Command.Invocation
import WildcardDiff.Proofs.Except

/-!
# Invocations without options

Arguments that do not begin with a dash are operands, whatever the form. A command
followed by as many of them as it takes is understood, and no option is set.
-/

namespace WildcardDiff
namespace Command

variable {form : Form} {dashes : Dashes} {argument pattern text : Text}
    {arguments : List Text}

/-- Whether an argument does not begin with a dash. -/
def IsPlain (argument : Text) : Prop :=
  argument.head? ≠ some '-'

instance (argument : Text) : Decidable (IsPlain argument) :=
  inferInstanceAs (Decidable (argument.head? ≠ some '-'))

theorem IsPlain.ne_twoDashes (plain : IsPlain argument) : argument ≠ twoDashes := by
  rintro rfl
  exact plain rfl

theorem IsPlain.wordsValue_erase (plain : IsPlain argument) :
    wordsValue ([argument].erase twoDashes) = .ofText argument := by
  have other : (argument == twoDashes) = false :=
    beq_eq_false_iff_ne.mpr plain.ne_twoDashes
  rw [List.erase_cons, other]
  rfl

namespace Form

theorem mark_of_plain (plain : IsPlain argument) : form.mark argument = .ok .operand := by
  unfold mark
  split
  · exact absurd rfl plain
  · rfl

theorem markAll_of_plain (plain : ∀ argument ∈ arguments, IsPlain argument) :
    form.markAll arguments =
      .ok (arguments.map fun argument => (argument, .operand)) := by
  induction arguments with
  | nil => rfl
  | cons argument rest inductionHypothesis =>
      rw [List.forall_mem_cons] at plain
      obtain ⟨first, others⟩ := plain
      rw [markAll, if_neg first.ne_twoDashes, mark_of_plain first,
        inductionHypothesis others]
      rfl

theorem map_fst_operands (arguments : List Text) :
    (arguments.map fun operand => (operand, Mark.operand)).map (·.1) = arguments := by
  rw [List.map_map]
  exact List.map_id arguments

/-- Marks stand with the arguments that they are of. -/
theorem map_fst_of_markAll
    {arguments : List Text}
    {marked : List Marked}
    (marks : form.markAll arguments = .ok marked) :
    marked.map (·.1) = arguments := by
  induction arguments generalizing marked with
  | nil =>
      obtain rfl := Except.ok.inj marks
      rfl
  | cons argument rest inductionHypothesis =>
      rw [markAll] at marks
      split at marks
      · obtain rfl := Except.ok.inj marks
        rw [List.map_cons, map_fst_operands]
      · obtain ⟨mark, -, marks⟩ := bind_eq_ok_iff.mp marks
        obtain ⟨others, othersMarked, same⟩ := bind_eq_ok_iff.mp marks
        obtain rfl := Except.ok.inj same
        rw [List.map_cons, inductionHypothesis othersMarked]

theorem read_of_plain
    (plain : ∀ argument ∈ arguments, IsPlain argument)
    {reading : Reading}
    (reads : form.readMarked .empty (arguments.map fun argument => (argument, .operand)) =
      .ok reading)
    (complete : form.operands.drop reading.operands.length = []) :
    form.read arguments = .ok reading := by
  unfold read
  rw [markAll_of_plain plain]
  change form.readMarked .empty _ >>= _ = _
  rw [reads]
  dsimp only [bind, Except.bind]
  rw [complete]
  rfl

theorem isEmpty_operandWords (argument : Text) (rest : List Marked) :
    (operandWords ((argument, .operand) :: rest)).isEmpty = false := by
  cases rest with
  | nil => rfl
  | cons next rest =>
      rcases next with ⟨word, mark⟩
      cases mark <;> rfl

/-- A command takes all arguments behind it. -/
theorem readMarked_command
    (hasCommand : form.hasCommand = true)
    {argument : Text}
    {mark : Mark}
    {rest : List Marked}
    (words : (operandWords ((argument, mark) :: rest)).isEmpty = false)
    (reading : Reading) :
    form.readMarked reading ((argument, mark) :: rest) =
      .ok { reading with command := argument :: rest.map (·.1) } := by
  cases mark with
  | unknown => cases words
  | option option name value => cases words
  | _ =>
      unfold readMarked
      dsimp only
      rw [hasCommand, words]
      rfl

end Form

/-- No operand of the general form can be missing, since it has none. -/
theorem read_generalForm_eq (arguments : List Text) :
    (generalForm dashes).read arguments =
      ((generalForm dashes).markAll arguments).mapError (generalForm dashes).refuse >>=
        (generalForm dashes).readMarked .empty := by
  unfold Form.read
  cases ((generalForm dashes).markAll arguments).mapError (generalForm dashes).refuse with
  | error halt => rfl
  | ok marked =>
      change ((generalForm dashes).readMarked .empty marked >>= _) =
        (generalForm dashes).readMarked .empty marked
      cases (generalForm dashes).readMarked .empty marked with
      | error halt => rfl
      | ok reading =>
          have nothing : (generalForm dashes).operands.drop reading.operands.length =
            [] := List.drop_nil
          dsimp only [bind, Except.bind]
          rw [nothing]
          rfl

/-- A command that is understood without options is all that is read in front of its
arguments. -/
theorem read_generalForm_of_markAll
    {name : Text}
    {arguments : List Text}
    {marked : List Marked}
    (plain : IsPlain name)
    (marks : (generalForm dashes).markAll arguments = .ok marked) :
    (generalForm dashes).read (name :: arguments) =
      .ok { Reading.empty with command := name :: arguments } := by
  have all : (generalForm dashes).markAll (name :: arguments) =
      .ok ((name, .operand) :: marked) := by
    rw [Form.markAll, if_neg plain.ne_twoDashes, Form.mark_of_plain plain, marks]
    rfl
  rw [read_generalForm_eq, all, ← Form.map_fst_of_markAll marks]
  exact Form.readMarked_command rfl (Form.isEmpty_operandWords name marked) .empty

/-- The first argument names the command if no option stands in front of it. -/
theorem read_generalForm
    {name : Text}
    (plain : ∀ argument ∈ name :: arguments, IsPlain argument) :
    (generalForm dashes).read (name :: arguments) =
      .ok { Reading.empty with command := name :: arguments } := by
  rw [List.forall_mem_cons] at plain
  exact read_generalForm_of_markAll plain.1 (Form.markAll_of_plain plain.2)

/-- A command that takes two operands takes them as they are given. -/
theorem read_pair
    {verb : Verb}
    (pair : verb ≠ .translating)
    {first second : Text}
    (isFirst : IsPlain first)
    (isSecond : IsPlain second) :
    (verb.form dashes).read [first, second] =
      .ok { Reading.empty with operands := [.ofText first, .ofText second] } := by
  have marked :
      (verb.form dashes).readMarked .empty [(first, .operand), (second, .operand)] =
        (verb.form dashes).readMarked
          { Reading.empty with
            operands :=
              [wordsValue ([first].erase twoDashes),
                wordsValue ([second].erase twoDashes)] }
          [] := by
    cases verb with
    | translating => exact absurd rfl pair
    | _ => exact Form.readMarked.eq_def _ _ _
  refine Form.read_of_plain (by simp [isFirst, isSecond]) (marked.trans ?_) ?_
  · rw [isFirst.wordsValue_erase, isSecond.wordsValue_erase, Form.readMarked]
  · cases verb with
    | translating => exact absurd rfl pair
    | _ => rfl

namespace Invocation

/-- The invocation that asks for a match, with no option. -/
def ofMatch (pattern text : Text) : Invocation where
  config := none
  escape := none
  noEscape := false
  ignoreCase := false
  cultureInvariant := false
  debug := false
  logFile := none
  plain := false
  task := .matching (.ofText pattern) (.ofText text)

/-- The invocation that asks for a comparison, with no option. -/
def ofComparison (expected actual : Text) : Invocation where
  config := none
  escape := none
  noEscape := false
  ignoreCase := false
  cultureInvariant := false
  debug := false
  logFile := none
  plain := false
  task := .comparing (.ofText expected) (.ofText actual) (.text Report.defaultHeader)

theorem readCommand_pair
    {verb : Verb}
    (pair : verb ≠ .translating)
    {first second : Text}
    (isFirst : IsPlain first)
    (isSecond : IsPlain second) :
    readCommand dashes
      { Reading.empty with command := [verb.name.toList, first, second] } =
      .ok (verb, { Reading.empty with operands := [.ofText first, .ofText second] }) := by
  have named : Verb.all.find? (fun other => other.name.toList = verb.name.toList) =
      some verb := by
    cases verb <;> decide
  unfold readCommand
  simp only [named, read_pair pair isFirst isSecond]
  rfl

/-- A pattern and a text that do not begin with a dash are matched. -/
theorem read_ofMatch (isPattern : IsPlain pattern) (isText : IsPlain text) :
    read dashes [Verb.matching.name.toList, pattern, text] =
      .ok (.ofMatch pattern text) := by
  have command : IsPlain Verb.matching.name.toList := by decide
  unfold read
  rw [read_generalForm (by simp [command, isPattern, isText])]
  change readCommand dashes _ >>= _ = _
  rw [readCommand_pair (by decide) isPattern isText]
  rfl

/-- Two files whose names do not begin with a dash are compared. -/
theorem read_ofComparison
    {expected actual : Text}
    (isExpected : IsPlain expected)
    (isActual : IsPlain actual) :
    read dashes [Verb.comparing.name.toList, expected, actual] =
      .ok (.ofComparison expected actual) := by
  have command : IsPlain Verb.comparing.name.toList := by decide
  unfold read
  rw [read_generalForm (by simp [command, isExpected, isActual])]
  change readCommand dashes _ >>= _ = _
  rw [readCommand_pair (by decide) isExpected isActual]
  rfl

end Invocation
end Command
end WildcardDiff
