import WildcardDiff.Proofs.Command.Options

/-!
# Options in front of a command

What is read of the options in front of a command does not depend on the command, nor on
the arguments after it: reading goes from left to right, and an option looks no further
than at the one argument that follows it. So the reading fails in front of the command,
or comes to it with the options that were chosen, or takes its name for something else.
-/

namespace WildcardDiff
namespace Command

namespace Form

variable {form : Form} {dashes : Dashes}

/-! ## Reading up to the command -/

/-- Two dashes with no operand behind them are left over. -/
theorem readMarked_dashes
    (hasCommand : form.hasCommand = true)
    {argument : Text}
    {rest : List Marked}
    (words : (operandWords ((argument, .dashes) :: rest)).isEmpty = true)
    (reading : Reading) :
    form.readMarked reading ((argument, .dashes) :: rest) =
      form.readMarked (reading.leave argument) rest := by
  have groups : ∀ count, operandGroups count ((argument, .dashes) :: rest) = [] := by
    intro count
    cases count with
    | zero => rfl
    | succ count =>
        rw [operandGroups]
        exact if_pos words
  refine (readMarked.eq_def _ _ _).trans ?_
  dsimp only
  rw [groups, words, hasCommand]
  rfl

theorem readMarked_nil (reading : Reading) :
    form.readMarked reading [] = .ok reading := by
  rw [readMarked]

theorem readMarked_unknown (argument : Text) (rest : List Marked) (reading : Reading) :
    form.readMarked reading ((argument, .unknown) :: rest) =
      form.readMarked (reading.leave argument) rest := by
  rw [readMarked]

theorem readMarked_option
    {argument name : Text}
    {option : OptionForm}
    {value : Option Text}
    {rest : List Marked}
    {reading : Reading}
    {taken : Taken}
    {count : Nat}
    (takes : form.takeOption rest option name value = .ok (taken, count)) :
    form.readMarked reading ((argument, .option option name value) :: rest) =
      (taken.foldlM form.choose reading) >>= fun further =>
        form.readMarked further (rest.drop count) := by
  rw [readMarked, takes]
  dsimp only
  cases taken.foldlM form.choose reading <;> rfl

theorem readMarked_option_error
    {argument name : Text}
    {option : OptionForm}
    {value : Option Text}
    {rest : List Marked}
    {error : UsageError}
    (fails : form.takeOption rest option name value = .error error)
    (reading : Reading) :
    form.readMarked reading ((argument, .option option name value) :: rest) =
      .error (form.refuse error) := by
  rw [readMarked, fails]

/-- Whether what is read up to a command, given its name and the arguments behind it, is
always the same: it fails, or comes to the command, or takes the name for something
else. -/
def Settles (reads : Text → List Marked → Except Halt Reading) : Prop :=
  (∃ halt, ∀ name rest, reads name rest = .error halt) ∨
    (∃ further : Reading, ∀ name rest,
      reads name rest = .ok { further with command := name :: rest.map (·.1) }) ∨
      ∀ name, ∃ further, reads name [] = .ok further ∧ further.command ≠ [name]

theorem Settles.of_eq
    {reads others : Text → List Marked → Except Halt Reading}
    (settles : Settles reads)
    (same : ∀ name rest, others name rest = reads name rest) :
    Settles others := by
  obtain rfl : others = reads := funext fun name => funext fun rest => same name rest
  exact settles

theorem settles_error (halt : Halt) : Settles fun _ _ => .error halt :=
  .inl ⟨halt, fun _ _ => rfl⟩

theorem settles_command
    (hasCommand : form.hasCommand = true)
    (reading : Reading) :
    Settles fun name rest => form.readMarked reading ((name, .operand) :: rest) := by
  refine .inr (.inl ⟨reading, fun name rest => ?_⟩)
  exact readMarked_command hasCommand (isEmpty_operandWords name rest) reading

/-- An argument in front of the name that is taken for the command keeps the name from
being it. -/
theorem settles_of_words
    (hasCommand : form.hasCommand = true)
    {argument : Text}
    {mark : Mark}
    {front : List Marked}
    (words : ∀ name,
      (operandWords ((argument, mark) :: (front ++ [(name, .operand)]))).isEmpty = false)
    (reading : Reading) :
    Settles fun name rest =>
      form.readMarked reading
        ((argument, mark) :: (front ++ (name, .operand) :: rest)) := by
  refine .inr (.inr fun name =>
    ⟨_, readMarked_command hasCommand (words name) reading, ?_⟩)
  simp

/-- An option right in front of the name may take it as its value. -/
theorem settles_option
    (hasCommand : form.hasCommand = true)
    (anything : ∀ option ∈ form.options, option.choices = [])
    {argument name : Text}
    {option : OptionForm}
    {value : Option Text}
    (known : option ∈ form.options)
    {reading : Reading}
    (bare : reading.command = []) :
    Settles fun word rest =>
      form.readMarked reading
        ((argument, .option option name value) :: (word, .operand) :: rest) := by
  rcases takeOption_operand known name value with
    ⟨error, fails⟩ | ⟨taken, leaves⟩ | ⟨front, last, lastKnown, takes⟩
  · exact (settles_error (form.refuse error)).of_eq fun word rest =>
      readMarked_option_error (fails word rest) reading
  · cases chosen : taken.foldlM form.choose reading with
    | error halt =>
        refine (settles_error halt).of_eq fun word rest => ?_
        rw [readMarked_option (leaves word rest), chosen]
        rfl
    | ok further =>
        refine (settles_command hasCommand further).of_eq fun word rest => ?_
        rw [readMarked_option (leaves word rest), chosen]
        rfl
  · cases chosen : front.foldlM form.choose reading with
    | error halt =>
        refine (settles_error halt).of_eq fun word rest => ?_
        rw [readMarked_option (takes word rest), List.foldlM_append, chosen]
        rfl
    | ok next =>
        have step : ∀ word rest, form.readMarked reading
            ((argument, .option option name value) :: (word, .operand) :: rest) =
              form.choose next (last, .ofText word) >>= fun further =>
                form.readMarked further rest := by
          intro word rest
          rw [readMarked_option (takes word rest), List.foldlM_append, chosen]
          change (form.choose next (last, .ofText word) >>= pure) >>= _ = _
          rw [bind_pure]
          rfl
        rcases choose_cases (anything last lastKnown) next with ⟨halt, fails⟩ | gives
        · refine (settles_error halt).of_eq fun word rest => ?_
          rw [step, fails]
          rfl
        · refine .inr (.inr fun word => ?_)
          obtain ⟨further, came, same⟩ := gives (.ofText word)
          refine ⟨further, ?_, ?_⟩
          · dsimp only
            rw [step, came]
            exact readMarked_nil further
          · rw [same, command_of_foldlM_choose chosen, bare]
            simp

/-- An option in front of other arguments looks at the first of them alone. -/
theorem settles_option_cons
    {argument name : Text}
    {option : OptionForm}
    {value : Option Text}
    (known : option ∈ form.options)
    {first : Marked}
    {front : List Marked}
    {reading : Reading}
    (bare : reading.command = [])
    (settles : ∀ further : Reading, ∀ count ≤ 1, further.command = [] →
      Settles fun word rest =>
        form.readMarked further
          ((first :: front).drop count ++ (word, .operand) :: rest)) :
    Settles fun word rest =>
      form.readMarked reading
        ((argument, .option option name value) ::
          (first :: front ++ (word, .operand) :: rest)) := by
  rcases takeOption_cons known name value first with
    ⟨error, fails⟩ | ⟨taken, count, atMost, gives⟩
  · exact (settles_error (form.refuse error)).of_eq fun word rest =>
      readMarked_option_error (fails _) reading
  · cases chosen : taken.foldlM form.choose reading with
    | error halt =>
        refine (settles_error halt).of_eq fun word rest => ?_
        rw [List.cons_append, readMarked_option (gives _), chosen]
        rfl
    | ok further =>
        have left := (command_of_foldlM_choose chosen).trans bare
        refine (settles further count atMost left).of_eq fun word rest => ?_
        have within : count ≤ (first :: front).length := by
          rw [List.length_cons]
          omega
        rw [List.cons_append, readMarked_option (gives _), chosen,
          ← List.drop_append_of_le_length within]
        rfl

/-- What stands in front of the name of a command settles whether it is read as the
command. -/
theorem settles_readMarked
    (hasCommand : form.hasCommand = true)
    (anything : ∀ option ∈ form.options, option.choices = [])
    {front : List Marked}
    (known : ∀ entry ∈ front, form.Knows entry)
    {reading : Reading}
    (bare : reading.command = []) :
    Settles fun name rest =>
      form.readMarked reading (front ++ (name, .operand) :: rest) := by
  induction length : front.length using Nat.strongRecOn generalizing front reading with
  | ind count inductionHypothesis =>
      cases front with
      | nil => exact settles_command hasCommand reading
      | cons first front =>
          rcases first with ⟨argument, mark⟩
          rw [List.forall_mem_cons] at known
          obtain ⟨own, known⟩ := known
          rw [List.length_cons] at length
          have shorter : front.length < count := by omega
          cases mark with
          | unknown =>
              have left : (reading.leave argument).command = [] := bare
              refine (inductionHypothesis _ shorter known left rfl).of_eq
                fun name rest => ?_
              rw [List.cons_append, readMarked_unknown]
          | operand =>
              exact settles_of_words hasCommand
                (fun name => isEmpty_operandWords argument _) reading
          | dashes =>
              have left : (reading.leave argument).command = [] := bare
              have settled := inductionHypothesis _ shorter known left rfl
              cases front with
              | nil => exact settles_of_words hasCommand (fun name => rfl) reading
              | cons second front =>
                  rcases second with ⟨word, mark⟩
                  cases mark with
                  | operand => exact settles_of_words hasCommand (fun name => rfl) reading
                  | _ =>
                      exact settled.of_eq fun name rest =>
                        readMarked_dashes hasCommand rfl reading
          | option option name value =>
              have listed := own option name value rfl
              cases front with
              | nil => exact settles_option hasCommand anything listed bare
              | cons second front =>
                  refine settles_option_cons listed bare
                    fun further taken atMost left => ?_
                  refine inductionHypothesis _ ?_ ?_ left rfl
                  · have dropped := List.length_drop (i := taken) (l := second :: front)
                    omega
                  · exact fun entry present => known entry (List.mem_of_mem_drop present)

end Form

/-! ## General options -/

/-- Whether arguments are general options: the name of a command behind them is read as
the command, if they can be read at all. -/
def AreGeneral (dashes : Dashes) (options : List Text) : Prop :=
  ∀ (verb : Verb) (reading : Reading),
    (generalForm dashes).read (options ++ [verb.name.toList]) = .ok reading →
      reading.command = [verb.name.toList]

theorem areGeneral_iff {options : List Text} :
    AreGeneral dashes options ↔ ∀ verb ∈ Verb.all,
      (((generalForm dashes).read (options ++ [verb.name.toList])).toOption.all
        fun reading =>
        reading.command = [verb.name.toList]) = true := by
  have every : ∀ verb : Verb, verb ∈ Verb.all := by
    intro verb
    cases verb <;> decide
  constructor
  · intro general verb _
    cases reads : (generalForm dashes).read (options ++ [verb.name.toList]) with
    | error halt => rfl
    | ok reading => exact decide_eq_true (general verb reading reads)
  · intro general verb reading reads
    have command := general verb (every verb)
    rw [reads] at command
    exact of_decide_eq_true command

instance (options : List Text) : Decidable (AreGeneral dashes options) :=
  decidable_of_iff' _ areGeneral_iff

theorem isPlain_name (verb : Verb) : IsPlain verb.name.toList := by
  cases verb <;> decide

theorem choices_of_mem_generalForm :
    ∀ option ∈ (generalForm dashes).options, option.choices = [] := by
  cases dashes <;> decide

/-- What is read of general options is the same in front of every command, whatever its
arguments are. -/
theorem AreGeneral.exists_reading
    {options : List Text}
    (general : AreGeneral dashes options) :
    ∃ outcome : Except Halt Reading,
      ∀ (verb : Verb) (arguments : List Text) (marked : List Marked),
      (generalForm dashes).markAll arguments = .ok marked →
        (generalForm dashes).read (options ++ verb.name.toList :: arguments) =
          outcome.map fun reading =>
            { reading with command := verb.name.toList :: arguments } := by
  rcases (generalForm dashes).markAll_append_cases options with
    ⟨error, fails⟩ | ⟨front, known, gives⟩
  · refine ⟨.error ((generalForm dashes).refuse error), fun verb arguments marked _ => ?_⟩
    rw [read_generalForm_eq, fails]
    rfl
  · have marks : ∀ (verb : Verb) (arguments : List Text) (marked : List Marked),
        (generalForm dashes).markAll arguments = .ok marked →
          ∃ after : List Marked, after.map (·.1) = arguments ∧
            (generalForm dashes).read (options ++ verb.name.toList :: arguments) =
              (generalForm dashes).readMarked .empty
                (front ++ (verb.name.toList, .operand) :: after) := by
      intro verb arguments marked others
      obtain ⟨after, same, all⟩ := gives _ _ _ (isPlain_name verb) others
      refine ⟨after, same, ?_⟩
      rw [read_generalForm_eq, all]
      rfl
    have settled : Form.Settles fun name rest =>
        (generalForm dashes).readMarked .empty (front ++ (name, .operand) :: rest) :=
      Form.settles_readMarked rfl choices_of_mem_generalForm known rfl
    rcases settled with ⟨halt, fails⟩ | ⟨reading, leads⟩ | astray
    · refine ⟨.error halt, fun verb arguments marked others => ?_⟩
      obtain ⟨after, -, same⟩ := marks verb arguments marked others
      exact same.trans (fails _ _)
    · refine ⟨.ok reading, fun verb arguments marked others => ?_⟩
      obtain ⟨after, rfl, same⟩ := marks verb arguments marked others
      exact same.trans (leads _ _)
    · exfalso
      obtain ⟨after, none, same⟩ := marks .matching [] [] rfl
      obtain rfl := List.map_eq_nil_iff.mp none
      obtain ⟨reading, came, other⟩ := astray Verb.matching.name.toList
      exact other (general .matching reading (same.trans came))

theorem exists_markAll_of_read
    {name : Text}
    {arguments : List Text}
    {reading : Reading}
    (plain : IsPlain name)
    (reads : (generalForm dashes).read (name :: arguments) = .ok reading) :
    ∃ marked, (generalForm dashes).markAll arguments = .ok marked := by
  rw [read_generalForm_eq] at reads
  obtain ⟨all, marks, -⟩ := bind_eq_ok_iff.mp reads
  rw [mapError_eq_ok_iff, Form.markAll, if_neg plain.ne_twoDashes] at marks
  obtain ⟨mark, -, marks⟩ := bind_eq_ok_iff.mp marks
  obtain ⟨marked, others, -⟩ := bind_eq_ok_iff.mp marks
  exact ⟨marked, others⟩

namespace Invocation

/-- An invocation with the general options of a reading. -/
def withGeneral (invocation : Invocation) (general : Reading) : Invocation :=
  { invocation with
    config := general.value? configOption
    escape := general.value? escapeOption
    noEscape := general.has noEscapeOption
    ignoreCase := general.has ignoreCaseOption
    cultureInvariant := general.has cultureInvariantOption
    debug := general.has debugOption
    logFile := general.value? logFileOption }

/-- A reading of general options, unless it left arguments over. -/
def complete (dashes : Dashes) (general : Reading) : Except Halt Reading :=
  match general.leftOver with
  | [] => .ok general
  | leftOver => .error ((generalForm dashes).refuse (.unrecognized leftOver))

/-- A command that is understood without options is so in front of its arguments alone. -/
theorem exists_readCommand_of_read
    {verb : Verb}
    {arguments : List Text}
    {base : Invocation}
    (understood : read dashes (verb.name.toList :: arguments) = .ok base) :
    (∃ marked, (generalForm dashes).markAll arguments = .ok marked) ∧
      ∃ named particular,
        particular.leftOver = [] ∧ base.plain = particular.has plainOption ∧
        base.task = taskOf named particular ∧
        ∀ reading : Reading,
          readCommand dashes { reading with command := verb.name.toList :: arguments } =
            .ok (named, particular) := by
  obtain ⟨reading, reads, understood⟩ := bind_eq_ok_iff.mp understood
  obtain ⟨⟨named, particular⟩, command, understood⟩ := bind_eq_ok_iff.mp understood
  obtain ⟨marked, marks⟩ := exists_markAll_of_read (isPlain_name verb) reads
  rw [read_generalForm_of_markAll (isPlain_name verb) marks] at reads
  obtain rfl := Except.ok.inj reads
  refine ⟨⟨marked, marks⟩, named, particular, ?_⟩
  dsimp only at understood
  split at understood
  · rename_i nothing
    obtain rfl := Except.ok.inj understood
    exact ⟨(List.append_eq_nil_iff.mp nothing).2, rfl, rfl, fun _ => command⟩
  · cases understood

/-- General options in front of a command that is understood are added to what it asks
for. -/
theorem exists_read_append
    {options : List Text}
    (general : AreGeneral dashes options) :
    ∃ outcome : Except Halt Reading,
      ∀ (verb : Verb) (arguments : List Text) (base : Invocation),
      read dashes (verb.name.toList :: arguments) = .ok base →
        read dashes (options ++ verb.name.toList :: arguments) =
          outcome.map base.withGeneral := by
  obtain ⟨outcome, gives⟩ := general.exists_reading
  refine ⟨outcome >>= complete dashes, fun verb arguments base understood => ?_⟩
  obtain ⟨⟨marked, marks⟩, named, particular, nothing, plain, task, command⟩ :=
    exists_readCommand_of_read understood
  unfold read
  rw [gives verb arguments marked marks]
  cases outcome with
  | error halt => rfl
  | ok reading =>
      change (readCommand dashes _ >>= _) = (complete dashes reading).map base.withGeneral
      rw [command]
      dsimp only [bind, Except.bind]
      rw [nothing, List.append_nil]
      unfold complete withGeneral
      rw [plain, task]
      cases reading.leftOver <;> rfl

end Invocation
end Command
end WildcardDiff
