import WildcardDiff.Proofs.Command.Invocation
import WildcardDiff.Proofs.Settings.Loading

/-!
# Options that are read

An argument is marked without regard to the others, except that all are operands behind
two dashes. Of the options behind one dash the last one alone looks at what follows, and
no further than at the next argument. Whether an option is permitted depends on those
that were chosen before it and not on its value.
-/

namespace WildcardDiff
namespace Command

namespace Form

variable {form : Form}

/-! ## Marks -/

/-- Whether an option that a mark names is one of a form. -/
def Knows (form : Form) (marked : Marked) : Prop :=
  ∀ option name value, marked.2 = .option option name value → option ∈ form.options

theorem mem_options_of_mem_named
    {entry : Text × OptionForm}
    (present : entry ∈ form.named) :
    entry.2 ∈ form.options := by
  obtain ⟨option, listed, named⟩ := List.mem_flatMap.mp present
  obtain ⟨name, -, rfl⟩ := List.mem_map.mp named
  exact listed

theorem mem_options_of_lookup
    {name : Text}
    {option : OptionForm}
    (found : form.named.lookup name = some option) :
    option ∈ form.options := by
  obtain ⟨front, back, split, -⟩ := List.lookup_eq_some_iff.mp found
  have present : (name, option) ∈ form.named := by
    rw [split]
    simp
  exact mem_options_of_mem_named present

theorem mem_options_of_mem_candidates
    {argument : Text}
    {candidate : Text × OptionForm × Option Text}
    (present : candidate ∈ form.candidates argument) :
    candidate.2.1 ∈ form.options := by
  unfold candidates at present
  dsimp only at present
  split at present
  · obtain ⟨entry, listed, rfl⟩ := List.mem_map.mp present
    exact mem_options_of_mem_named (List.mem_filter.mp listed).1
  · obtain ⟨entry, listed, taken⟩ := List.mem_filterMap.mp present
    have known := mem_options_of_mem_named listed
    split at taken
    · obtain rfl := Option.some.inj taken
      exact known
    · split at taken
      · obtain rfl := Option.some.inj taken
        exact known
      · cases taken

/-- The option that an argument is marked with is one of the form. -/
theorem knows_of_mark
    {argument : Text}
    {mark : Mark}
    (marked : form.mark argument = .ok mark) :
    form.Knows (argument, mark) := by
  intro option name value same
  obtain rfl : mark = .option option name value := same
  unfold Form.mark at marked
  split at marked
  · dsimp only at marked
    split at marked
    · rename_i found
      obtain ⟨rfl, -, -⟩ := Mark.option.inj (Except.ok.inj marked)
      exact mem_options_of_lookup found
    · rename_i found
      obtain ⟨rfl, -, -⟩ := Mark.option.inj (Except.ok.inj marked)
      obtain ⟨_, -, found⟩ := Option.bind_eq_some_iff.mp found
      exact mem_options_of_lookup found
    · split at marked
      · split at marked <;> cases Except.ok.inj marked
      · rename_i candidateName candidate candidateValue alone
        obtain ⟨rfl, -, -⟩ := Mark.option.inj (Except.ok.inj marked)
        have present := List.mem_singleton_self (candidateName, candidate, candidateValue)
        rw [← alone] at present
        exact mem_options_of_mem_candidates present
      · cases marked
  · cases Except.ok.inj marked

/-- Marking fails in front of an argument that does not begin with a dash, or gives what
is in front of it the same marks whatever follows. -/
theorem markAll_append_cases (form : Form) (front : List Text) :
    (∃ error, ∀ name arguments,
      form.markAll (front ++ name :: arguments) = .error error) ∨
      ∃ marked : List Marked, (∀ entry ∈ marked, form.Knows entry) ∧
        ∀ name arguments others, IsPlain name → form.markAll arguments = .ok others →
          ∃ after : List Marked, after.map (·.1) = arguments ∧
            form.markAll (front ++ name :: arguments) =
              .ok (marked ++ (name, .operand) :: after) := by
  induction front with
  | nil =>
      refine .inr ⟨[], by simp, fun name arguments others plain marks =>
        ⟨others, map_fst_of_markAll marks, ?_⟩⟩
      rw [List.nil_append, markAll, if_neg plain.ne_twoDashes, mark_of_plain plain, marks]
      rfl
  | cons argument front inductionHypothesis =>
      by_cases dashes : argument = twoDashes
      · -- Behind two dashes every argument is an operand.
        refine .inr ⟨(argument, .dashes) :: front.map fun operand =>
          (operand, .operand), ?_, ?_⟩
        · intro entry present option name value same
          rcases List.mem_cons.mp present with rfl | present
          · cases same
          · obtain ⟨operand, -, rfl⟩ := List.mem_map.mp present
            cases same
        · intro name arguments others plain marks
          refine ⟨arguments.map fun operand =>
            (operand, .operand), map_fst_operands arguments, ?_⟩
          rw [List.cons_append, markAll, if_pos dashes]
          simp
      · simp only [List.cons_append, markAll, if_neg dashes]
        cases marks : form.mark argument with
        | error error => exact .inl ⟨error, fun name arguments => rfl⟩
        | ok mark =>
            rcases inductionHypothesis with ⟨error, fails⟩ | ⟨marked, known, gives⟩
            · refine .inl ⟨error, fun name arguments => ?_⟩
              rw [fails]
              rfl
            · refine .inr ⟨(argument, mark) :: marked, ?_, ?_⟩
              · rw [List.forall_mem_cons]
                exact ⟨knows_of_mark marks, known⟩
              · intro name arguments others plain otherMarks
                obtain ⟨after, same, marksAll⟩ :=
                  gives name arguments others plain otherMarks
                refine ⟨after, same, ?_⟩
                rw [marksAll]
                rfl

/-! ## Options that are taken -/

/-- Whether options are taken without regard to what is behind them, or the last of them
alone looks at it. -/
def LastLooks
    (form : Form)
    (taking : List Marked → Except UsageError (Taken × Nat)) : Prop :=
  (∃ error, ∀ after, taking after = .error error) ∨
    (∃ taken, ∀ after, taking after = .ok (taken, 0)) ∨
      ∃ front, ∃ last ∈ form.options, ∀ after,
        taking after = (take last after).map fun found => (front ++ found.1, found.2)

theorem lastLooks_take
    {option : OptionForm}
    (known : option ∈ form.options) :
    form.LastLooks (take option) := by
  refine .inr (.inr ⟨[], option, known, fun after => ?_⟩)
  cases take option after <;> rfl

theorem takeBundle_of_takesValue
    {option : OptionForm}
    (takes : option.takesValue = true)
    (after : List Marked)
    (isLong : Bool)
    (text : Text) :
    form.takeBundle after isLong option text =
      .ok ([(option, givenValue form.dashes text)], 0) := by
  unfold takeBundle
  cases text <;> exact if_pos takes

theorem takeBundle_cons
    {option next : OptionForm}
    {char : Char}
    (flag : ¬option.takesValue = true)
    (found : form.named.lookup ['-', char] = some next)
    (after : List Marked)
    (rest : Text) :
    form.takeBundle after false option (char :: rest) =
      (if rest.isEmpty then take next after
        else form.takeBundle after false next rest).map
        fun others => ((option, .bool true) :: others.1, others.2) := by
  rw [takeBundle.eq_2 _ _ _ _ _ _ found, if_neg flag]
  split
  · cases take next after <;> rfl
  · cases form.takeBundle after false next rest <;> rfl

/-- Options behind the same dash are taken one after the other, so that only the last
one comes to look at what follows. -/
theorem lastLooks_takeBundle
    {option : OptionForm}
    (known : option ∈ form.options)
    (isLong : Bool)
    (text : Text) :
    form.LastLooks fun after => form.takeBundle after isLong option text := by
  unfold LastLooks
  dsimp only
  induction isLong, option, text using takeBundle.induct form with
  | case1 isLong option takes | case3 isLong option char rest takes =>
      exact .inr (.inl ⟨_, fun after => takeBundle_of_takesValue takes after isLong _⟩)
  | case2 isLong option flag =>
      refine .inl ⟨.unusedValue option.label [], fun after => ?_⟩
      unfold takeBundle
      exact if_neg flag
  | case4 option char rest flag next found alone =>
      refine .inr (.inr ⟨[(option, .bool true)], next, mem_options_of_lookup found, ?_⟩)
      intro after
      rw [takeBundle_cons flag found, if_pos alone]
      rfl
  | case5 option char rest flag next found several inductionHypothesis =>
      have equation : ∀ after, form.takeBundle after false option (char :: rest) =
          (form.takeBundle after false next rest).map fun others =>
            ((option, .bool true) :: others.1, others.2) := by
        intro after
        rw [takeBundle_cons flag found, if_neg several]
      simp only [equation]
      rcases inductionHypothesis (mem_options_of_lookup found) with
        ⟨error, fails⟩ | ⟨taken, gives⟩ | ⟨front, last, lastKnown, gives⟩
      · refine .inl ⟨error, fun after => ?_⟩
        rw [fails]
        rfl
      · refine .inr (.inl ⟨(option, .bool true) :: taken, fun after => ?_⟩)
        rw [gives]
        rfl
      · refine .inr (.inr
          ⟨(option, .bool true) :: front, last, lastKnown, fun after => ?_⟩)
        rw [gives]
        cases take last after <;> rfl
  | case6 isLong option char rest flag unnamed =>
      refine .inl ⟨.unusedValue option.label (char :: rest), fun after => ?_⟩
      rw [takeBundle, if_neg flag]
      exact unnamed

theorem lastLooks_takeOption
    {option : OptionForm}
    (known : option ∈ form.options)
    (name : Text)
    (value : Option Text) :
    form.LastLooks fun after => form.takeOption after option name value := by
  cases value with
  | none => exact lastLooks_take known
  | some text => exact lastLooks_takeBundle known (twoDashes.isPrefixOf name) text

/-- The option that looks at an operand takes it or leaves it, whatever the operand is. -/
theorem take_operand (option : OptionForm) :
    (∃ taken, ∀ name rest, take option ((name, .operand) :: rest) = .ok (taken, 0)) ∨
      ∀ name rest, take option ((name, .operand) :: rest) =
        .ok ([(option, .ofText name)], 1) := by
  unfold take
  cases option.takesValue with
  | true => exact .inr fun name rest => rfl
  | false => exact .inl ⟨_, fun name rest => rfl⟩

/-- An option looks at the first argument behind it alone, and takes no more than that. -/
theorem take_cons (option : OptionForm) (first : Marked) :
    (∃ error, ∀ rest, take option (first :: rest) = .error error) ∨
      ∃ taken count, count ≤ 1 ∧ ∀ rest,
        take option (first :: rest) = .ok (taken, count) := by
  rcases first with ⟨word, mark⟩
  unfold take
  cases option.takesValue with
  | false => exact .inr ⟨_, 0, Nat.zero_le 1, fun rest => rfl⟩
  | true =>
      cases mark with
      | operand => exact .inr ⟨_, 1, Nat.le_refl 1, fun rest => rfl⟩
      | _ => exact .inl ⟨_, fun rest => rfl⟩

/-- Options in front of an operand fail, leave it, or end with one that takes it. -/
theorem takeOption_operand
    {option : OptionForm}
    (known : option ∈ form.options)
    (name : Text)
    (value : Option Text) :
    (∃ error, ∀ word rest,
      form.takeOption ((word, .operand) :: rest) option name value = .error error) ∨
    (∃ taken, ∀ word rest,
      form.takeOption ((word, .operand) :: rest) option name value = .ok (taken, 0)) ∨
    ∃ front, ∃ last ∈ form.options, ∀ word rest,
      form.takeOption ((word, .operand) :: rest) option name value =
        .ok (front ++ [(last, .ofText word)], 1) := by
  rcases lastLooks_takeOption known name value with
    ⟨error, fails⟩ | ⟨taken, gives⟩ | ⟨front, last, lastKnown, gives⟩
  · exact .inl ⟨error, fun word rest => fails _⟩
  · exact .inr (.inl ⟨taken, fun word rest => gives _⟩)
  · right
    rcases take_operand last with ⟨taken, leaves⟩ | takes
    · refine .inl ⟨front ++ taken, fun word rest => ?_⟩
      refine (gives _).trans ?_
      rw [leaves]
      rfl
    · refine .inr ⟨front, last, lastKnown, fun word rest => ?_⟩
      refine (gives _).trans ?_
      rw [takes]
      rfl

/-- Options in front of some argument fail, or take at most that argument, whatever
follows. -/
theorem takeOption_cons
    {option : OptionForm}
    (known : option ∈ form.options)
    (name : Text)
    (value : Option Text)
    (first : Marked) :
    (∃ error, ∀ rest, form.takeOption (first :: rest) option name value = .error error) ∨
      ∃ taken count, count ≤ 1 ∧
        ∀ rest, form.takeOption (first :: rest) option name value =
          .ok (taken, count) := by
  rcases lastLooks_takeOption known name value with
    ⟨error, fails⟩ | ⟨taken, gives⟩ | ⟨front, last, lastKnown, gives⟩
  · exact .inl ⟨error, fun rest => fails _⟩
  · exact .inr ⟨taken, 0, Nat.zero_le 1, fun rest => gives _⟩
  · rcases take_cons last first with ⟨error, fails⟩ | ⟨taken, count, atMost, takes⟩
    · refine .inl ⟨error, fun rest => ?_⟩
      refine (gives _).trans ?_
      rw [fails]
      rfl
    · refine .inr ⟨front ++ taken, count, atMost, fun rest => ?_⟩
      refine (gives _).trans ?_
      rw [takes]
      rfl

/-! ## Options that are chosen -/

/-- What choosing an option comes to if the option allows the value. -/
def permit
    (form : Form)
    (reading : Reading)
    (option : OptionForm)
    (value : Value) : Except Halt Reading :=
  match option.excludes.find? fun label => (reading.chosen.lookup label).isSome with
  | some label => .error (form.refuse (.excluded option.label label))
  | none =>
      match option.stop with
      | some stop => .error (.stopped form.program stop)
      | none => .ok { reading with chosen := reading.chosen ++ [(option.label, value)] }

/-- An option is refused for a value that it does not allow, or else permitted. -/
theorem choose_eq_or
    (form : Form)
    (reading : Reading)
    (option : OptionForm)
    (value : Value) :
    (option.choices ≠ [] ∧ ∃ halt, form.choose reading (option, value) = .error halt) ∨
      form.choose reading (option, value) = form.permit reading option value := by
  unfold choose permit
  dsimp only
  cases value with
  | text content =>
      dsimp only
      split
      · rename_i wrong
        refine .inl ⟨?_, _, rfl⟩
        intro anything
        simp [anything] at wrong
      · right
        cases option.excludes.find? fun label => (reading.chosen.lookup label).isSome <;>
          cases option.stop <;> rfl
  | _ =>
      right
      cases option.excludes.find? fun label => (reading.chosen.lookup label).isSome <;>
        cases option.stop <;> rfl

/-- Whether an option is permitted does not depend on its value. -/
theorem permit_cases (form : Form) (reading : Reading) (option : OptionForm) :
    (∃ halt, ∀ value, form.permit reading option value = .error halt) ∨
      ∀ value, ∃ further, form.permit reading option value = .ok further ∧
        further.command = reading.command := by
  unfold permit
  split
  · exact .inl ⟨_, fun value => rfl⟩
  · split
    · exact .inl ⟨_, fun value => rfl⟩
    · exact .inr fun value => ⟨_, rfl, rfl⟩

/-- An option that allows all values is chosen whatever its value is, or not at all. -/
theorem choose_cases
    {option : OptionForm}
    (anything : option.choices = [])
    (reading : Reading) :
    (∃ halt, ∀ value, form.choose reading (option, value) = .error halt) ∨
      ∀ value, ∃ further, form.choose reading (option, value) = .ok further ∧
        further.command = reading.command := by
  have permitted : ∀ value,
      form.choose reading (option, value) = form.permit reading option value :=
        fun value =>
    (choose_eq_or form reading option value).resolve_left fun wrong => wrong.1 anything
  simp only [permitted]
  exact permit_cases form reading option

theorem command_of_choose
    {reading further : Reading}
    {taken : OptionForm × Value}
    (chosen : form.choose reading taken = .ok further) :
    further.command = reading.command := by
  rcases choose_eq_or form reading taken.1 taken.2 with ⟨-, halt, failed⟩ | permitted
  · cases chosen.symm.trans failed
  · rcases permit_cases form reading taken.1 with ⟨halt, fails⟩ | gives
    · cases chosen.symm.trans (permitted.trans (fails taken.2))
    · obtain ⟨found, came, same⟩ := gives taken.2
      obtain rfl := Except.ok.inj (chosen.symm.trans (permitted.trans came))
      exact same

theorem command_of_foldlM_choose
    {reading further : Reading}
    {taken : Taken}
    (chosen : taken.foldlM form.choose reading = .ok further) :
    further.command = reading.command := by
  induction taken generalizing reading with
  | nil =>
      obtain rfl := Except.ok.inj chosen
      rfl
  | cons first taken inductionHypothesis =>
      rw [List.foldlM_cons] at chosen
      obtain ⟨next, firstChosen, chosen⟩ := bind_eq_ok_iff.mp chosen
      exact (inductionHypothesis chosen).trans (command_of_choose firstChosen)

end Form
end Command
end WildcardDiff
