import WildcardDiff.Proofs.Regex.CaseAgreement

/-!
# Sets of one member

A set of one member and the member as a literal are two ways to ask for the same
character. While letter case counts they take the same characters. When it is ignored
they may differ: a literal takes what has the same case folding, while a set takes what
is the member, or has it as its lower or upper case. Which members make no difference
can be seen from the characters that are the same letter, and what a set takes in the
place of a literal decides about whole patterns.
-/

namespace WildcardDiff

/-! ## One character -/

namespace Letter

instance (char form : Char) : Decidable (IsForm char form) :=
  inferInstanceAs (Decidable (_ ∨ _ ∨ _))

/-- Whether a set of one member and the member as a literal both take a character, or
neither does, when letter case is ignored. -/
def concurs (folding : Folding) (member char : Char) : Bool :=
  decide (IsForm char member) == decide (folding.apply [member] = folding.apply [char])

/-- Whether a set of one member and the member as a literal take the same characters
when letter case is ignored. Only characters that are the same letter are looked at. -/
def isUniform (folding : Folding) (member : Char) : Bool :=
  (variants member).all (concurs folding member)

end Letter

namespace Construct

variable {options : Options} {member char : Char}

/-- What a literal takes. -/
def takesLiteral (options : Options) (member char : Char) : Bool :=
  options.folding.apply [member] = options.folding.apply [char]

/-- What a set of one member takes. -/
def takesLone (options : Options) (member char : Char) : Bool :=
  (charSet options.ignoreCase [.one member]).contains [char]

theorem charPortion_literal_eq (options : Options) (member : Char) :
    charPortion options (.literal member) = .one (takesLiteral options member) := rfl

theorem charPortion_lone_eq (options : Options) (member : Char) :
    charPortion options (.set [.one member]) = .one (takesLone options member) := rfl

/-- While letter case counts, both take the member alone. -/
theorem takesLone_of_caseful (caseful : options.ignoreCase = false) (member char : Char) :
    takesLone options member char = takesLiteral options member char := by
  unfold takesLone takesLiteral
  rw [caseful, contains_charSet, Options.folding_eq_exact caseful]
  simp [Choice.item, Regex.Item.accepts, Folding.apply]

theorem takesLone_iff (ignores : options.ignoreCase = true) :
    takesLone options member char = true ↔ Letter.IsForm char member := by
  unfold takesLone
  rw [ignores, contains_charSet_iff]
  simp [Choice.item, Regex.Item.accepts]

theorem takesLone_eq_takesLiteral_iff (ignores : options.ignoreCase = true) :
    takesLone options member char = takesLiteral options member char ↔
      Letter.concurs options.folding member char = true := by
  unfold Letter.concurs takesLiteral
  rw [beq_iff_eq, decide_eq_decide, Bool.eq_iff_iff, takesLone_iff ignores,
    decide_eq_true_iff]

/-- Characters that are not the same letter are taken by neither. -/
theorem concurs_of_not_same
    (ignores : options.ignoreCase = true)
    (other : Letter.same member char = false) :
    Letter.concurs options.folding member char = true := by
  have noForm : ¬Letter.IsForm char member := fun isForm => by
    rw [Letter.same_symm isForm.same] at other
    cases other
  have apart : options.folding.apply [member] ≠ options.folding.apply [char] :=
      fun equal => by
    rw [same_of_folding_eq ignores equal] at other
    cases other
  simp [Letter.concurs, noForm, apart]

/-- All characters are decided by those that are the same letter. -/
theorem isUniform_iff (ignores : options.ignoreCase = true) :
    Letter.isUniform options.folding member = true ↔
      ∀ char, takesLone options member char = takesLiteral options member char := by
  simp only [takesLone_eq_takesLiteral_iff ignores]
  unfold Letter.isUniform
  rw [List.all_eq_true]
  constructor
  · intro uniform char
    cases alike : Letter.same member char with
    | true => exact uniform char (Letter.mem_variants_iff.mpr alike)
    | false => exact concurs_of_not_same ignores alike
  · exact fun concur char _ => concur char

/-- The two differ for some letters of ASCII, but not the same ones with full case
folding and with lower case alone. -/
example :
    ['E', 'I', 'K', 'S', 'k', 's'].filter (fun char => !Letter.isUniform .full char) =
        ['I', 'K', 's'] ∧
      ['E', 'I', 'K', 'S', 'k', 's'].filter (fun char => !Letter.isUniform .lower char) =
        ['I', 'K', 'S'] := by
  decide +kernel

end Construct

/-! ## In its place in a pattern -/

namespace Construct

theorem eq_of_literal_mem_events {construct : Construct} {char : Char}
    (present : .literal char ∈ construct.events) :
    construct = .literal char := by
  cases construct with
  | literal other =>
      have equal := List.mem_singleton.mp present
      rw [Event.literal.inj equal]
  | star => cases List.mem_singleton.mp present
  | question => cases List.mem_singleton.mp present
  | set choices =>
      simp only [events, List.cons_append, List.mem_cons, List.mem_append, List.mem_map]
        at present
      rcases present with absurdly | ⟨choice, -, equal⟩ | absurdly
      · cases absurdly
      · cases choice <;> cases equal
      · simp at absurdly

/-- A literal among the events of constructs is a construct of its own. -/
theorem exists_split_of_literal
    {constructs : List Construct}
    {front back : List Event}
    {char : Char}
    (split : constructs.flatMap events = front ++ .literal char :: back) :
    ∃ before after, constructs = before ++ .literal char :: after ∧
      front = before.flatMap events ∧ back = after.flatMap events := by
  induction constructs generalizing front with
  | nil => simp at split
  | cons construct constructs inductionHypothesis =>
      rw [List.flatMap_cons, List.append_eq_append_iff] at split
      rcases split with ⟨rest, rfl, split⟩ | ⟨rest, split, following⟩
      · obtain ⟨before, after, rfl, rfl, rfl⟩ := inductionHypothesis split
        exact ⟨construct :: before, after, rfl, rfl, rfl⟩
      · cases rest with
        | nil =>
            have whole : constructs.flatMap events = [] ++ .literal char :: back :=
              following.symm
            obtain ⟨before, after, rfl, empty, rfl⟩ := inductionHypothesis whole
            refine ⟨construct :: before, after, rfl, ?_, rfl⟩
            rw [List.flatMap_cons, ← empty, split, List.append_nil, List.append_nil]
        | cons first rest =>
            obtain ⟨rfl, rfl⟩ := List.cons.inj following
            have literal : construct = .literal char := by
              apply eq_of_literal_mem_events
              rw [split]
              simp
            subst literal
            obtain ⟨rfl, rfl⟩ : front = [] ∧ rest = [] := by
              simpa [events, List.singleton_eq_append_iff] using split
            exact ⟨[], constructs, rfl, rfl, rfl⟩

end Construct

namespace Pattern

section

variable
  {pattern : Pattern}
  {before after : List Construct}
  {construct : Construct}
  {fits : Char → Bool}

/-- A pattern with a single construct in it matches a text exactly if the construct
takes a character of the text, and the constructs on both sides accept what is left on
their side. -/
theorem isMatch_iff_of_split
    (events : pattern.events = (before ++ construct :: after).flatMap Construct.events)
    (portion : construct.charPortion pattern.options = .one fits)
    {text : Text} :
    pattern.isMatch text = true ↔
      ∃ first char second, text = first ++ char :: second ∧ fits char = true ∧
        Portion.Accepts (before.map (Construct.charPortion pattern.options)) first ∧
        Portion.Accepts (after.map (Construct.charPortion pattern.options)) second := by
  rw [isMatch_iff_accepts, portions_of_events events, List.map_append, List.map_cons,
    portion, Portion.accepts_append_one_cons]

/-- Between samples of the other constructs a pattern takes what the construct takes. -/
theorem isMatch_between_samples
    (events : pattern.events = (before ++ construct :: after).flatMap Construct.events)
    (portion : construct.charPortion pattern.options = .one fits)
    (wellFormedBefore : ∀ construct ∈ before, construct.WellFormed)
    (wellFormedAfter : ∀ construct ∈ after, construct.WellFormed)
    (filler char : Char) :
    pattern.isMatch (before.flatMap (Construct.sample filler) ++
      char :: after.flatMap (Construct.sample filler)) = fits char := by
  rw [Bool.eq_iff_iff]
  constructor
  · intro matched
    rw [isMatch_iff_accepts, portions_of_events events, List.map_append, List.map_cons,
      portion] at matched
    have single := Construct.isOne_charPortion pattern.options
    exact matched.fits_of_tight (Construct.length_samples_le single before filler)
      (Construct.length_samples_le single after filler)
  · intro takes
    rw [isMatch_iff_of_split events portion]
    exact ⟨_, char, _, rfl, takes, Construct.accepts_samples wellFormedBefore _ filler,
      Construct.accepts_samples wellFormedAfter _ filler⟩

end

/-- Two patterns differ in one place alone, where one has a set of a single member and
the other the member as a literal. They match the same texts of characters on which the
two agree. They match all the same texts exactly if letter case counts, or the two agree
on every character that is the same letter as the member. -/
theorem isMatch_lone_eq_isMatch_literal
    {lone literal : Pattern}
    {front back : List Event}
    {member : Char}
    (options : lone.options = literal.options)
    (loneEvents : lone.events = front ++ [.setOpen, .setMember member, .setClose] ++ back)
    (literalEvents : literal.events = front ++ .literal member :: back) :
    (∀ text,
        (literal.options.ignoreCase = true → ∀ char ∈ text,
          Letter.concurs literal.options.folding member char = true) →
        lone.isMatch text = literal.isMatch text) ∧
      ((∀ text, lone.isMatch text = literal.isMatch text) ↔
        literal.options.ignoreCase = false ∨
          Letter.isUniform literal.options.folding member = true) := by
  obtain ⟨constructs, wellFormed, grouped⟩ := literal.exists_constructs
  obtain ⟨before, after, rfl, rfl, rfl⟩ :=
    Construct.exists_split_of_literal (grouped.symm.trans literalEvents)
  have loneGrouped : lone.events =
      (before ++ .set [.one member] :: after).flatMap Construct.events := by
    simp [loneEvents, Construct.events, Choice.event]
  have lonePortion : (Construct.set [.one member]).charPortion lone.options =
      .one (Construct.takesLone literal.options member) := by
    rw [options, Construct.charPortion_lone_eq]
  have literalPortion := Construct.charPortion_literal_eq literal.options member
  have alike : ∀ text,
      (∀ char ∈ text, Construct.takesLone literal.options member char =
        Construct.takesLiteral literal.options member char) →
      lone.isMatch text = literal.isMatch text := by
    intro text agree
    rw [Bool.eq_iff_iff, isMatch_iff_of_split loneGrouped lonePortion,
      isMatch_iff_of_split grouped literalPortion, options]
    constructor
    · rintro ⟨first, char, second, rfl, takes, accepts⟩
      exact ⟨first, char, second, rfl, agree char (by simp) ▸ takes, accepts⟩
    · rintro ⟨first, char, second, rfl, takes, accepts⟩
      exact ⟨first, char, second, rfl, agree char (by simp) ▸ takes, accepts⟩
  refine ⟨?_, ?_, ?_⟩
  · intro text concur
    apply alike
    intro char present
    cases ignores : literal.options.ignoreCase with
    | false => exact Construct.takesLone_of_caseful ignores member char
    | true =>
        exact (Construct.takesLone_eq_takesLiteral_iff ignores).mpr
          (concur ignores char present)
  · intro same
    cases ignores : literal.options.ignoreCase with
    | false => exact .inl rfl
    | true =>
        refine .inr ((Construct.isUniform_iff ignores).mpr fun char => ?_)
        have wellFormedBefore : ∀ construct ∈ before, construct.WellFormed :=
          fun construct present => wellFormed construct (List.mem_append_left _ present)
        have wellFormedAfter : ∀ construct ∈ after, construct.WellFormed :=
          fun construct present =>
            wellFormed construct
              (List.mem_append_right _ (List.mem_cons_of_mem _ present))
        rw [← isMatch_between_samples loneGrouped lonePortion wellFormedBefore
          wellFormedAfter
            'a' char,
          ← isMatch_between_samples grouped literalPortion wellFormedBefore
            wellFormedAfter
            'a' char]
        exact same _
  · rintro (caseful | uniform) text
    · exact alike text fun char _ => Construct.takesLone_of_caseful caseful member char
    · cases ignores : literal.options.ignoreCase with
      | false => exact alike text fun char _ =>
          Construct.takesLone_of_caseful ignores member char
      | true => exact alike text fun char _ =>
          (Construct.isUniform_iff ignores).mp uniform char

/-- The Kelvin sign is taken by a small k in either form. -/
theorem isMatch_lone_eq_isMatch_literal_kelvin :
    ∃ lone literal : Pattern, lone.text = "x[k]*".toList ∧ literal.text = "xk*".toList ∧
      lone.options = ⟨2⟩ ∧ literal.options = ⟨2⟩ ∧
      lone.isMatch ['X', '\u212a', 'y'] = true ∧
      ∀ text, lone.isMatch text = literal.isMatch text := by
  let lone : Pattern :=
    ⟨"x[k]*".toList, none, ⟨2⟩,
      [.literal 'x', .setOpen, .setMember 'k', .setClose, .star], by decide, by decide⟩
  let literal : Pattern :=
    ⟨"xk*".toList, none, ⟨2⟩, [.literal 'x', .literal 'k', .star], by decide, by decide⟩
  have uniform : Letter.isUniform literal.options.folding 'k' = true := by decide +kernel
  obtain ⟨-, all⟩ :=
    @isMatch_lone_eq_isMatch_literal lone literal [.literal 'x'] [.star] 'k' rfl rfl rfl
  exact ⟨lone, literal, rfl, rfl, rfl, rfl, by decide +kernel, all.mpr (.inr uniform)⟩

/-- The long s folds to a small s, and has a capital S as its upper case: so the small s
takes it as a literal alone, and where lower case is all that counts the capital takes
it in a set alone. -/
theorem isMatch_lone_ne_isMatch_literal :
    (∃ lone literal : Pattern, lone.options = ⟨2⟩ ∧ literal.options = ⟨2⟩ ∧
      lone.events = [.setOpen, .setMember 's', .setClose] ∧
      literal.events = [.literal 's'] ∧
      lone.isMatch ['ſ'] = false ∧ literal.isMatch ['ſ'] = true) ∧
    (∃ lone literal : Pattern, lone.options = ⟨6⟩ ∧ literal.options = ⟨6⟩ ∧
      lone.events = [.setOpen, .setMember 'S', .setClose] ∧
      literal.events = [.literal 'S'] ∧
      lone.isMatch ['ſ'] = true ∧ literal.isMatch ['ſ'] = false) := by
  refine ⟨⟨⟨['[', 's', ']'], none, ⟨2⟩, _, by decide, by decide⟩,
    ⟨['s'], none, ⟨2⟩, _, by decide, by decide⟩, rfl, rfl, rfl, rfl, ?_, ?_⟩,
    ⟨⟨['[', 'S', ']'], none, ⟨6⟩, _, by decide, by decide⟩,
    ⟨['S'], none, ⟨6⟩, _, by decide, by decide⟩, rfl, rfl, rfl, rfl, ?_, ?_⟩⟩
  · decide +kernel
  · decide +kernel
  · decide +kernel
  · decide +kernel

end Pattern
end WildcardDiff
