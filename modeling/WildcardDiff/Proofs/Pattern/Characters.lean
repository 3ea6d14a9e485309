import WildcardDiff.Proofs.Pattern.Construct

/-!
# Characters of events

The reading of a pattern invents no characters: those that its events carry, and the
escape that may be left over at the end, all stand in the text.
-/

namespace WildcardDiff

/-- All characters that a reading carries have a property. -/
structure Reading.Within (property : Char → Prop) (reading : Reading) : Prop where
  events : ∀ event ∈ reading.events, ∀ char ∈ event.chars, property char
  dangling : ∀ char, reading.ending = .dangling char → property char

variable {property : Char → Prop}

theorem Reading.Within.cons
    {reading : Reading}
    {event : Event}
    (within : reading.Within property)
    (chars : ∀ char ∈ event.chars, property char) :
    (reading.cons event).Within property where
  events := by
    intro other present
    rcases List.mem_cons.mp present with rfl | present
    · exact chars
    · exact within.events other present
  dangling := within.dangling

theorem Member.events_within
    {members : List Member}
    (within : ∀ member ∈ members, property member.char) :
    ∀ event ∈ (Member.events members).1, ∀ char ∈ event.chars, property char := by
  fun_induction Member.events members with
  | case1 => simp
  | case2 last => simpa [Event.chars] using within
  | case3 first last => simpa [Event.chars] using within
  | case4 low dash high rest isDash downward => simp
  | case5 low dash high rest isDash upward events ordered read inductionHypothesis =>
      simp only [List.forall_mem_cons] at within
      obtain ⟨lowWithin, -, highWithin, others⟩ := within
      rw [read] at inductionHypothesis
      simp only [List.forall_mem_cons, Event.chars, List.not_mem_nil, false_imp_iff,
        implies_true, and_true]
      exact ⟨⟨lowWithin, highWithin⟩, inductionHypothesis others⟩
  | case6 low dash high rest plain events ordered read inductionHypothesis =>
      rw [List.forall_mem_cons] at within
      rw [read] at inductionHypothesis
      simp only [List.forall_mem_cons, Event.chars, List.not_mem_nil, false_imp_iff,
        implies_true, and_true]
      exact ⟨within.1, inductionHypothesis within.2⟩

theorem Reading.Within.set
    {members : List Member}
    {following : Reading}
    (within : following.Within property)
    (membersWithin : ∀ member ∈ members, property member.char) :
    (Reading.set members following).Within property := by
  have inside := Member.events_within membersWithin
  unfold Reading.set
  split
  rename_i events upward read
  rw [read] at inside
  split
  · refine ⟨?_, within.dangling⟩
    intro event present
    simp only [List.cons_append, List.mem_cons, List.mem_append] at present
    rcases present with rfl | present | rfl | present
    · simp [Event.chars]
    · exact inside event present
    · simp [Event.chars]
    · exact within.events event present
  · refine ⟨?_, by simp⟩
    intro event present
    rcases List.mem_cons.mp present with rfl | present
    · simp [Event.chars]
    · exact inside event present

/-- All members that a scope holds so far have a property. -/
def Scope.Within (property : Char → Prop) : Scope → Prop
  | .outside => True
  | .inside _ members => ∀ member ∈ members, property member.char

/-- If an escape before the text is still to be paired, it has a property. -/
def Pending (property : Char → Prop) (escape : Option Char) (escaping : Bool) : Prop :=
  escaping = true → ∀ char, escape = some char → property char

theorem Pending.none {escape : Option Char} : Pending property escape false := by
  intro escaping
  cases escaping

theorem Pending.of_eq
    {escape : Option Char}
    {char : Char}
    (escapes : escape = some char)
    (has : property char)
    (escaping : Bool) :
    Pending property escape escaping := by
  rintro - other equal
  rwa [← Option.some.inj (escapes.symm.trans equal)]

theorem Pending.of_has
    {escape : Option Char}
    {char : Char}
    (has : property char) :
    Pending property escape (decide (escape = some char)) :=
  fun escaping => Pending.of_eq (of_decide_eq_true escaping) has true rfl

/-- What the reading of a text carries has every property that all characters of the text
have, the members before it and an escape before it. -/
theorem within_scan
    (escape : Option Char)
    (scope : Scope)
    (escaping : Bool)
    (text : Text)
    (members : scope.Within property)
    (pending : Pending property escape escaping)
    (chars : ∀ char ∈ text, property char) :
    (scan escape scope escaping text).Within property := by
  fun_induction scan escape scope escaping text with
  | case1 char escapes =>
      refine ⟨by simp, ?_⟩
      rintro _ ⟨⟩
      exact pending rfl char escapes
  | case2 => exact ⟨by simp, by simp⟩
  | case3 => exact ⟨by simp, by simp⟩
  | case4 char rest inductionHypothesis =>
      rw [List.forall_mem_cons] at chars
      exact (inductionHypothesis trivial .none chars.2).cons
        (by simpa [Event.chars] using chars.1)
  | case5 rest escapes inductionHypothesis =>
      rw [List.forall_mem_cons] at chars
      exact (inductionHypothesis trivial (.of_has chars.1) chars.2).cons
        (by simp [Event.chars])
  | case6 rest escapes _ inductionHypothesis =>
      rw [List.forall_mem_cons] at chars
      exact (inductionHypothesis trivial (.of_has chars.1) chars.2).cons
        (by simp [Event.chars])
  | case7 rest escapes _ _ inductionHypothesis =>
      rw [List.forall_mem_cons] at chars
      exact inductionHypothesis (by simp [Scope.Within]) (.of_has chars.1) chars.2
  | case8 char rest escapes _ _ _ isEscape inductionHypothesis =>
      rw [List.forall_mem_cons] at chars
      exact inductionHypothesis trivial (.of_eq isEscape chars.1 true) chars.2
  | case9 char rest escapes _ _ _ _ inductionHypothesis =>
      rw [List.forall_mem_cons] at chars
      exact (inductionHypothesis trivial .none chars.2).cons
        (by simpa [Event.chars] using chars.1)
  | case10 justOpened collected char rest inductionHypothesis =>
      rw [List.forall_mem_cons] at chars
      refine inductionHypothesis ?_ .none chars.2
      exact List.forall_mem_append.mpr ⟨members, List.forall_mem_singleton.mpr chars.1⟩
  | case11 justOpened collected char rest escapes closes inductionHypothesis =>
      rw [List.forall_mem_cons] at chars
      exact (inductionHypothesis trivial (.of_has chars.1) chars.2).set members
  | case12 justOpened collected char rest escapes _ isEscape inductionHypothesis =>
      rw [List.forall_mem_cons] at chars
      exact inductionHypothesis members (.of_eq isEscape chars.1 true) chars.2
  | case13 justOpened collected char rest escapes _ _ inductionHypothesis =>
      rw [List.forall_mem_cons] at chars
      refine inductionHypothesis ?_ .none chars.2
      exact List.forall_mem_append.mpr ⟨members, List.forall_mem_singleton.mpr chars.1⟩

/-- The characters that the events of a text carry stand in the text. -/
theorem mem_of_mem_chars
    {escape : Option Char}
    {text : Text}
    {events : List Event}
    {event : Event}
    {char : Char}
    (reads : events? escape text = some events)
    (present : event ∈ events)
    (carried : char ∈ event.chars) :
    char ∈ text := by
  have within : (scan escape .outside false text).Within (· ∈ text) :=
    within_scan escape .outside false text trivial .none (fun _ inText => inText)
  unfold events? Reading.ofText at reads
  simp only at reads
  split at reads
  · rename_i mark dangling
    have inText : mark ∈ text := within.dangling mark dangling
    split at reads
    · rw [if_pos rfl] at reads
      obtain rfl := Option.some.inj reads
      exact within.events event present char carried
    · rw [if_pos rfl] at reads
      obtain rfl := Option.some.inj reads
      rcases List.mem_append.mp present with present | present
      · exact within.events event present char carried
      · obtain rfl := List.mem_singleton.mp present
        rwa [List.mem_singleton.mp carried]
  · split at reads
    · obtain rfl := Option.some.inj reads
      exact within.events event present char carried
    · cases reads

end WildcardDiff
