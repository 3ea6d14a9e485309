import WildcardDiff.Pattern.Basic

/-!
# Constructs

The events of a complete reading come in groups: a literal, `*`, `?`, or a set that opens,
lists its choices and closes. A construct is one such group. Whatever the escape character
is, a complete reading gives the events of a row of constructs in which every set has a
choice and every range runs upwards.
-/

namespace WildcardDiff

/-- What a set offers: a single character, or an inclusive range. -/
inductive Choice
  | one (char : Char)
  | range (low high : Char)
  deriving DecidableEq

/-- A group of events that belong together. -/
inductive Construct
  | literal (char : Char)
  | star
  | question
  | set (choices : List Choice)
  deriving DecidableEq

namespace Choice

/-- The event of a choice. -/
def event : Choice -> Event
  | .one char => .setMember char
  | .range low high => .setRange low high

/-- Whether a choice does not run downwards. -/
def isOrdered : Choice -> Bool
  | .one _ => true
  | .range low high => low ≤ high

end Choice

namespace Construct

/-- The events of a construct. -/
def events : Construct -> List Event
  | .literal char => [.literal char]
  | .star => [.star]
  | .question => [.question]
  | .set choices => .setOpen :: choices.map Choice.event ++ [.setClose]

/-- Whether no range of a construct runs downwards. -/
def isOrdered : Construct -> Bool
  | .set choices => choices.all Choice.isOrdered
  | _ => true

/-- A construct is well formed if a set has a choice and no range runs downwards. -/
def WellFormed (construct : Construct) : Prop :=
  construct ≠ .set [] ∧ construct.isOrdered = true

/-- The events of a row of constructs, unless a range runs downwards. -/
def eventsOf? (constructs : List Construct) : Option (List Event) :=
  if constructs.all Construct.isOrdered then some (constructs.flatMap Construct.events)
  else none

theorem eventsOf?_eq_some_iff {constructs : List Construct} {events : List Event} :
    eventsOf? constructs = some events ↔
      (∀ construct ∈ constructs, construct.isOrdered = true) ∧
        events = constructs.flatMap Construct.events := by
  unfold eventsOf?
  rw [Option.ite_none_right_eq_some, List.all_eq_true, Option.some.injEq]
  exact and_congr_right fun _ => eq_comm

theorem eventsOf?_cons (construct : Construct) (constructs : List Construct) :
    eventsOf? (construct :: constructs) =
      if construct.isOrdered then (eventsOf? constructs).map (construct.events ++ ·)
      else none := by
  unfold eventsOf?
  by_cases ordered : construct.isOrdered = true
  · by_cases others : constructs.all Construct.isOrdered = true <;> simp [ordered, others]
  · simp [ordered]

theorem bind_eventsOf?_cons
    (construct : Construct)
    (constructs? : Option (List Construct)) :
    (constructs?.map (construct :: ·)).bind eventsOf? =
      if construct.isOrdered then (constructs?.bind eventsOf?).map (construct.events ++ ·)
      else none := by
  cases constructs? with
  | none => simp
  | some constructs => exact eventsOf?_cons construct constructs

end Construct

namespace Member

/-- The choices among the members of a set, from left to right: three members at a time
where the second is a dash that makes a range, and one at a time elsewhere. -/
def choices : List Member -> List Choice
  | low :: dash :: high :: rest =>
      if dash.isDash then .range low.char high.char :: choices rest
      else .one low.char :: choices (dash :: high :: rest)
  | members => members.map fun member => .one member.char

theorem choices_ne_nil {members : List Member} (inhabited : members ≠ []) :
    choices members ≠ [] := by
  unfold choices
  split
  · split <;> simp
  · simpa using inhabited

/-- The events of the members are those of their choices, up to the first choice that runs
downwards. -/
theorem events_eq (members : List Member) :
    (events members).2 = (choices members).all Choice.isOrdered ∧
      ((events members).2 = true ->
        (events members).1 = (choices members).map Choice.event) := by
  fun_induction events members with
  | case1 => simp [choices]
  | case2 last => simp [choices, Choice.isOrdered, Choice.event]
  | case3 first last => simp [choices, Choice.isOrdered, Choice.event]
  | case4 low dash high rest isDash downward =>
      have unordered : ¬low.char ≤ high.char := Char.not_le.mpr downward
      simp [choices, isDash, Choice.isOrdered, unordered]
  | case5 low dash high rest isDash upward events ordered read inductionHypothesis =>
      have order : low.char ≤ high.char := Char.not_lt.mp upward
      rw [read] at inductionHypothesis
      simpa [choices, isDash, Choice.isOrdered, Choice.event, order]
        using inductionHypothesis
  | case6 low dash high rest plain events ordered read inductionHypothesis =>
      rw [read] at inductionHypothesis
      simpa [choices, plain, Choice.isOrdered, Choice.event] using inductionHypothesis

end Member

namespace Reading

/-- The events of a reading that came to the end of its text. -/
def completed? (reading : Reading) : Option (List Event) :=
  if reading.ending = .complete then some reading.events else none

theorem completed?_cons (event : Event) (reading : Reading) :
    (reading.cons event).completed? = reading.completed?.map (event :: ·) := by
  unfold completed? cons
  split <;> simp

/-- A reading goes on after a set unless one of its choices runs downwards. -/
theorem set_eq (members : List Member) (following : Reading) :
    Reading.set members following =
      if (Member.choices members).all Choice.isOrdered then
        ⟨(Construct.set (Member.choices members)).events ++ following.events,
          following.ending⟩
      else ⟨.setOpen :: (Member.events members).1, .failed⟩ := by
  obtain ⟨upward, events⟩ := Member.events_eq members
  unfold Reading.set
  rcases read : Member.events members with ⟨found, ordered⟩
  rw [read] at upward events
  cases ordered with
  | false => simp [← upward]
  | true =>
      have found_eq : found = (Member.choices members).map Choice.event := events rfl
      simp [← upward, found_eq, Construct.events]

/-- A reading that goes on after a set has the events of the set before the others. -/
theorem set_eq_of_ne_failed
    {members : List Member}
    {following : Reading}
    (read : (Reading.set members following).ending ≠ .failed) :
    Reading.set members following =
      ⟨(Construct.set (Member.choices members)).events ++ following.events,
        following.ending⟩ := by
  rw [set_eq] at read ⊢
  split at read
  · rename_i ordered
    rw [if_pos ordered]
  · exact absurd rfl read

theorem completed?_set (members : List Member) (following : Reading) :
    (Reading.set members following).completed? =
      if (Member.choices members).all Choice.isOrdered then
        following.completed?.map ((Construct.set (Member.choices members)).events ++ ·)
      else none := by
  rw [set_eq]
  split
  · unfold completed?
    split <;> simp
  · simp [completed?]

/-- Unless it failed, a reading gives the events of well-formed constructs. -/
def Grouped (reading : Reading) : Prop :=
  reading.ending ≠ .failed ->
    ∃ constructs : List Construct, (∀ construct ∈ constructs, construct.WellFormed) ∧
      reading.events = constructs.flatMap Construct.events

theorem Grouped.nil (ending : Ending) : (Reading.mk [] ending).Grouped :=
  fun _ => ⟨[], by simp, rfl⟩

theorem Grouped.of_failed {events : List Event} : (Reading.mk events .failed).Grouped :=
  fun complete => absurd rfl complete

theorem Grouped.cons
    {reading : Reading}
    {event : Event}
    (construct : Construct)
    (wellFormed : construct.WellFormed)
    (single : construct.events = [event])
    (grouped : reading.Grouped) :
    (reading.cons event).Grouped := by
  intro complete
  obtain ⟨constructs, others, events⟩ := grouped complete
  refine ⟨construct :: constructs, ?_, ?_⟩
  · simpa using ⟨wellFormed, others⟩
  · simp [Reading.cons, events, single]

theorem Grouped.set
    {members : List Member}
    {following : Reading}
    (inhabited : members ≠ [])
    (grouped : following.Grouped) :
    (Reading.set members following).Grouped := by
  rw [set_eq]
  split
  · rename_i ordered
    intro complete
    obtain ⟨constructs, others, events⟩ := grouped complete
    have wellFormed : (Construct.set (Member.choices members)).WellFormed :=
      ⟨by simpa using Member.choices_ne_nil inhabited, ordered⟩
    refine ⟨.set (Member.choices members) :: constructs, ?_, ?_⟩
    · simpa using ⟨wellFormed, others⟩
    · simp [events]
  · exact .of_failed

end Reading

/-- The scope in which a reading stands is possible: a set without members was opened just
now, or has an escape that is still to be paired. -/
def Scope.Possible (escaping : Bool) : Scope -> Prop
  | .outside => True
  | .inside justOpened members => members = [] -> justOpened = true ∨ escaping = true

/-- A set that may end has a member. -/
theorem Scope.Possible.ne_nil
    {justOpened : Bool}
    {members : List Member}
    (possible : (Scope.inside justOpened members).Possible false)
    (older : justOpened = false) :
    members ≠ [] := by
  intro empty
  rcases possible empty with opened | pending
  · simp [older] at opened
  · cases pending

/-- A reading groups its events, whatever its escape character is. -/
theorem grouped_scan
    (escape : Option Char)
    (scope : Scope)
    (escaping : Bool)
    (text : Text)
    (possible : scope.Possible escaping) :
    (scan escape scope escaping text).Grouped := by
  fun_induction scan escape scope escaping text with
  | case1 char => exact .nil _
  | case2 => exact .nil _
  | case3 => exact .of_failed
  | case4 char rest inductionHypothesis =>
      exact (inductionHypothesis trivial).cons (.literal char) ⟨by simp, rfl⟩ rfl
  | case5 rest escapes inductionHypothesis =>
      exact (inductionHypothesis trivial).cons .star ⟨by simp, rfl⟩ rfl
  | case6 rest escapes _ inductionHypothesis =>
      exact (inductionHypothesis trivial).cons .question ⟨by simp, rfl⟩ rfl
  | case7 rest escapes _ _ inductionHypothesis =>
      exact inductionHypothesis fun _ => .inl rfl
  | case8 char rest escapes _ _ _ _ inductionHypothesis =>
      exact inductionHypothesis trivial
  | case9 char rest escapes _ _ _ _ inductionHypothesis =>
      exact (inductionHypothesis trivial).cons (.literal char) ⟨by simp, rfl⟩ rfl
  | case10 justOpened members char rest inductionHypothesis =>
      exact inductionHypothesis fun empty => by simp at empty
  | case11 justOpened members char rest escapes closes inductionHypothesis =>
      exact (inductionHypothesis trivial).set (possible.ne_nil closes.2)
  | case12 justOpened members char rest escapes _ _ inductionHypothesis =>
      exact inductionHypothesis fun _ => .inr rfl
  | case13 justOpened members char rest escapes _ _ inductionHypothesis =>
      exact inductionHypothesis fun empty => by simp at empty

theorem Reading.grouped_ofText (escape : Option Char) (text : Text) :
    (Reading.ofText escape text).Grouped := by
  have grouped := grouped_scan escape .outside false text trivial
  unfold Reading.ofText
  simp only
  split
  · rename_i char dangling
    obtain ⟨constructs, wellFormed, events⟩ := grouped (by simp [dangling])
    intro complete
    split
    · exact ⟨constructs, wellFormed, events⟩
    · refine ⟨constructs ++ [.literal char], ?_, by simp [events, Construct.events]⟩
      intro construct present
      rcases List.mem_append.mp present with present | present
      · exact wellFormed construct present
      · rw [List.mem_singleton.mp present]
        exact ⟨by simp, rfl⟩
  · exact grouped

/-- The events of a text are those of a complete reading. -/
theorem events?_eq_some_iff {escape : Option Char} {text : Text} {events : List Event} :
    events? escape text = some events ↔
      (Reading.ofText escape text).ending = .complete ∧
        (Reading.ofText escape text).events = events := by
  unfold events?
  rw [Option.ite_none_right_eq_some, Option.some.injEq]

theorem events?_eq_none_iff {escape : Option Char} {text : Text} :
    events? escape text = none ↔ (Reading.ofText escape text).ending ≠ .complete := by
  unfold events?
  rw [ite_eq_right_iff]
  simp

/-- The events of a pattern are those of well-formed constructs. -/
theorem Pattern.exists_constructs (pattern : Pattern) :
    ∃ constructs : List Construct, (∀ construct ∈ constructs, construct.WellFormed) ∧
      pattern.events = constructs.flatMap Construct.events := by
  obtain ⟨complete, events⟩ := events?_eq_some_iff.mp pattern.reads
  have grouped := Reading.grouped_ofText pattern.escape pattern.text (by simp [complete])
  rwa [events] at grouped

end WildcardDiff
