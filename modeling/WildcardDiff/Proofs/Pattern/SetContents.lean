import WildcardDiff.Proofs.Pattern.Construct

/-!
# Contents of sets

A set lists what its brackets hold: every character between them, but for the escapes,
is listed once and in its place, by itself, or as a bound or the dash of a range. This
holds whatever the escape character is, also if it is a bracket, and opens or closes a
set and escapes the next character at once.
-/

namespace WildcardDiff

/-! ## What brackets hold -/

/-- The members of a set and the text after its closing bracket, from the text after its
opening bracket on, unless the set is not closed. A set that is `justOpened` has no
character so far. -/
def Member.gather? (escape : Option Char) :
    (justOpened escaping : Bool) → Text → Option (List Member × Text)
  | _, _, [] => none
  | justOpened, escaping, char :: rest =>
      if char = ']' ∧ justOpened = false ∧ escaping = false then some ([], rest)
      else if escape = some char ∧ escaping = false then gather? escape false true rest
      else
        (gather? escape false false rest).map
          (Prod.map (⟨char, char = '-' ∧ escaping = false⟩ :: ·) id)

namespace Member

section

variable {escape : Option Char} {justOpened escaping : Bool} {text following : Text}
  {members : List Member}

theorem length_gather?_lt
    (found : gather? escape justOpened escaping text = some (members, following)) :
    following.length < text.length := by
  fun_induction gather? escape justOpened escaping text generalizing members with
  | case1 => cases found
  | case2 justOpened escaping char rest closes =>
      obtain ⟨-, rfl⟩ := Prod.mk.inj (Option.some.inj found)
      exact Nat.lt_succ_self _
  | case3 justOpened escaping char rest _ escapes inductionHypothesis =>
      exact Nat.lt_succ_of_lt (inductionHypothesis found)
  | case4 justOpened escaping char rest _ _ inductionHypothesis =>
      obtain ⟨⟨others, _⟩, gathered, split⟩ := Option.map_eq_some_iff.mp found
      obtain ⟨-, rfl⟩ := Prod.mk.inj split
      exact Nat.lt_succ_of_lt (inductionHypothesis gathered)

/-- Nothing but a dash makes a range. -/
theorem char_eq_dash_of_gather?
    (found : gather? escape justOpened escaping text = some (members, following)) :
    ∀ member ∈ members, member.isDash = true → member.char = '-' := by
  fun_induction gather? escape justOpened escaping text generalizing members with
  | case1 => cases found
  | case2 justOpened escaping char rest closes =>
      obtain ⟨rfl, -⟩ := Prod.mk.inj (Option.some.inj found)
      simp
  | case3 justOpened escaping char rest _ escapes inductionHypothesis =>
      exact inductionHypothesis found
  | case4 justOpened escaping char rest _ _ inductionHypothesis =>
      obtain ⟨⟨others, _⟩, gathered, split⟩ := Option.map_eq_some_iff.mp found
      obtain ⟨rfl, rfl⟩ := Prod.mk.inj split
      refine List.forall_mem_cons.mpr ⟨fun isDash => ?_, inductionHypothesis gathered⟩
      exact (of_decide_eq_true isDash).1

end

/-- In a set, the reading goes on with what the brackets hold. -/
theorem scan_inside
    (escape : Option Char)
    (justOpened escaping : Bool)
    (members : List Member)
    (text : Text) :
    scan escape (.inside justOpened members) escaping text =
      match gather? escape justOpened escaping text with
      | none => ⟨[], .failed⟩
      | some (found, following) =>
          (scan escape .outside (escape = some ']') following).set
            (members ++ found) := by
  fun_induction gather? escape justOpened escaping text generalizing members with
  | case1 => simp [scan]
  | case2 justOpened escaping char rest closes =>
      obtain ⟨rfl, older, paired⟩ := closes
      simp [scan, older, paired]
  | case3 justOpened escaping char rest unclosed escapes inductionHypothesis =>
      rw [escapes.2, scan, if_neg fun closes => unclosed ⟨closes.1, closes.2, escapes.2⟩,
        if_pos escapes.1]
      exact inductionHypothesis members
  | case4 justOpened escaping char rest unclosed plain inductionHypothesis =>
      -- Escaped or not, the character becomes a member; an escaped dash makes no range.
      have step : scan escape (.inside justOpened members) escaping (char :: rest) =
          scan escape (.inside false (members ++ [⟨char, char = '-' ∧ escaping = false⟩]))
            false rest := by
        cases escaping with
        | true => simp [scan]
        | false =>
            rw [scan, if_neg fun closes => unclosed ⟨closes.1, closes.2, rfl⟩,
              if_neg fun escapes => plain ⟨escapes, rfl⟩]
            simp
      rw [step, inductionHypothesis]
      cases gather? escape false false rest with
      | none => rfl
      | some found => simp

end Member

/-- The characters that the sets of a text collect, in the order of the sets. The
character before the text is an escape that is still to be paired when `escaping`
holds. -/
def setContents (escape : Option Char) : (escaping : Bool) → Text → List Text
  | _, [] => []
  | escaping, char :: rest =>
      if char = '[' ∧ escaping = false then
        match _found : Member.gather? escape true (escape = some '[') rest with
        | some (members, following) =>
            members.map Member.char :: setContents escape (escape = some ']') following
        | none => []
      else setContents escape (escape = some char ∧ escaping = false) rest
termination_by _ text => text.length
decreasing_by
  · exact Nat.lt_succ_of_lt (Member.length_gather?_lt _found)
  · exact Nat.lt_succ_self _

/-! ## What sets list -/

namespace Choice

/-- How a choice is written in a set. -/
def text : Choice → Text
  | .one char => [char]
  | .range low high => [low, '-', high]

end Choice

/-- The choices of members are written as the members are. -/
theorem Member.flatMap_text_choices
    {members : List Member}
    (dashes : ∀ member ∈ members, member.isDash = true → member.char = '-') :
    (choices members).flatMap Choice.text = members.map Member.char := by
  fun_induction choices members with
  | case1 low dash high rest isDash inductionHypothesis =>
      simp only [List.forall_mem_cons] at dashes
      obtain ⟨-, isChar, -, others⟩ := dashes
      rw [List.flatMap_cons, inductionHypothesis others, Choice.text, ← isChar isDash]
      rfl
  | case2 low dash high rest plain inductionHypothesis =>
      rw [List.flatMap_cons, inductionHypothesis (List.forall_mem_cons.mp dashes).2]
      rfl
  | case3 members =>
      rw [List.flatMap_map]
      exact List.map_eq_flatMap.symm

/-- What the set of a construct lists, as it is written. -/
def Construct.setText? : Construct → Option Text
  | .set choices => some (choices.flatMap Choice.text)
  | _ => none

/-- What the sets among events list, as it is written. The set that is open, if one is,
lists a text so far. -/
def Event.setTexts : (listed : Text) → List Event → List Text
  | _, [] => []
  | _, .literal _ :: events => setTexts [] events
  | _, .star :: events => setTexts [] events
  | _, .question :: events => setTexts [] events
  | _, .setOpen :: events => setTexts [] events
  | listed, .setMember char :: events => setTexts (listed ++ [char]) events
  | listed, .setRange low high :: events => setTexts (listed ++ [low, '-', high]) events
  | listed, .setClose :: events => listed :: setTexts [] events

namespace Event

theorem setTexts_choices (listed : Text) (choices : List Choice) (events : List Event) :
    setTexts listed (choices.map Choice.event ++ events) =
      setTexts (listed ++ choices.flatMap Choice.text) events := by
  induction choices generalizing listed with
  | nil => simp
  | cons choice choices inductionHypothesis =>
      rw [List.flatMap_cons, ← List.append_assoc, ← inductionHypothesis]
      cases choice <;> rfl

theorem setTexts_set (listed : Text) (choices : List Choice) (events : List Event) :
    setTexts listed ((Construct.set choices).events ++ events) =
      choices.flatMap Choice.text :: setTexts [] events := by
  have opened : (Construct.set choices).events ++ events =
      .setOpen :: (choices.map Choice.event ++ .setClose :: events) := by
    simp [Construct.events]
  rw [opened]
  exact setTexts_choices [] choices (.setClose :: events)

/-- The sets among the events of constructs are those of the constructs. -/
theorem setTexts_constructs (constructs : List Construct) :
    setTexts [] (constructs.flatMap Construct.events) =
      constructs.filterMap Construct.setText? := by
  induction constructs with
  | nil => rfl
  | cons construct constructs inductionHypothesis =>
      rw [List.flatMap_cons, List.filterMap_cons, ← inductionHypothesis]
      cases construct with
      | set choices => exact setTexts_set [] choices _
      | _ => rfl

theorem setTexts_concat_literal (listed : Text) (events : List Event) (char : Char) :
    setTexts listed (events ++ [.literal char]) = setTexts listed events := by
  induction events generalizing listed with
  | nil => rfl
  | cons event events inductionHypothesis =>
      cases event with
      | setClose => exact congrArg (listed :: ·) (inductionHypothesis [])
      | _ => exact inductionHypothesis _

/-! ## Both agree -/

section

variable {escape : Option Char} {escaping : Bool} {text : Text}

/-- A character that opens no set has no part in what sets list. -/
theorem setTexts_scan_cons
    (escape : Option Char)
    {char : Char}
    (other : ¬(char = '[' ∧ escaping = false))
    (rest : Text) :
    let following := scan escape .outside (escape = some char ∧ escaping = false) rest
    (scan escape .outside escaping (char :: rest)).ending = following.ending ∧
      setTexts [] (scan escape .outside escaping (char :: rest)).events =
        setTexts [] following.events := by
  cases escaping with
  | true => simp [scan, Reading.cons, setTexts]
  | false =>
      have plain : char ≠ '[' := fun opens => other ⟨opens, rfl⟩
      simp only [scan, plain, if_false, and_true]
      by_cases star : char = '*'
      · rw [if_pos star]
        exact ⟨rfl, rfl⟩
      by_cases question : char = '?'
      · rw [if_neg star, if_pos question]
        exact ⟨rfl, rfl⟩
      rw [if_neg star, if_neg question]
      by_cases escapes : escape = some char
      · rw [if_pos escapes, decide_eq_true escapes]
        exact ⟨rfl, rfl⟩
      · rw [if_neg escapes, decide_eq_false escapes]
        exact ⟨rfl, rfl⟩

/-- A reading that does not fail lists in its sets what they collect. -/
theorem setTexts_scan (read : (scan escape .outside escaping text).ending ≠ .failed) :
    setTexts [] (scan escape .outside escaping text).events =
      setContents escape escaping text := by
  -- The induction is on what the brackets hold, so that a whole set is a single step.
  fun_induction setContents escape escaping text with
  | case1 escaping => cases escape <;> cases escaping <;> rfl
  | case2 escaping char rest opens members following gathered inductionHypothesis =>
      obtain ⟨rfl, rfl⟩ := opens
      have inside : scan escape .outside false ('[' :: rest) =
          (scan escape .outside (escape = some ']') following).set members := by
        simp [scan, Member.scan_inside, gathered]
      rw [inside] at read ⊢
      have split := Reading.set_eq_of_ne_failed read
      rw [split] at read ⊢
      rw [setTexts_set,
        Member.flatMap_text_choices (Member.char_eq_dash_of_gather? gathered),
        inductionHypothesis read]
  | case3 escaping char rest opens unclosed =>
      obtain ⟨rfl, rfl⟩ := opens
      simp [scan, Member.scan_inside, unclosed] at read
  | case4 escaping char rest other inductionHypothesis =>
      obtain ⟨ending, texts⟩ := setTexts_scan_cons escape other rest
      rw [texts]
      exact inductionHypothesis (ending ▸ read)

/-- An escape at the end, which becomes a literal, has no part in what sets list. -/
theorem setTexts_ofText (complete : (Reading.ofText escape text).ending = .complete) :
    setTexts [] (Reading.ofText escape text).events = setContents escape false text := by
  cases ending : (scan escape .outside false text).ending with
  | complete =>
      have same : Reading.ofText escape text = scan escape .outside false text := by
        simp [Reading.ofText, ending]
      rw [same]
      exact setTexts_scan (by simp [ending])
  | failed => simp [Reading.ofText, ending] at complete
  | dangling mark =>
      rw [← setTexts_scan (by simp [ending])]
      simp only [Reading.ofText, ending]
      split
      · rfl
      · exact setTexts_concat_literal [] _ mark

end

end Event

/-- The calls of a complete reading come in groups, whatever the escape character is: a
literal, a wildcard, or a set, which opens, has at least one choice, none that runs
downwards, and closes. What the sets list, as it is written, is what their brackets
hold. -/
theorem exists_constructs_with_contents
    {escape : Option Char}
    {text : Text}
    {events : List Event}
    (reads : events? escape text = some events) :
    ∃ constructs : List Construct,
      events = constructs.flatMap Construct.events ∧
        (∀ construct ∈ constructs, construct.WellFormed) ∧
        constructs.filterMap Construct.setText? = setContents escape false text := by
  obtain ⟨complete, rfl⟩ := events?_eq_some_iff.mp reads
  obtain ⟨constructs, wellFormed, grouped⟩ :=
    Reading.grouped_ofText escape text (by simp [complete])
  refine ⟨constructs, grouped, wellFormed, ?_⟩
  rw [← Event.setTexts_constructs, ← grouped]
  exact Event.setTexts_ofText complete

/-- The escape `]` collects a bracket, then closes the set, and escapes the bracket
after that. -/
theorem exists_constructs_with_contents_example :
    events? (some ']') "[]]-z]]*".toList =
        some [.setOpen, .setRange ']' 'z', .setClose, .literal ']', .star] ∧
      ∃ constructs : List Construct,
        [.setOpen, .setRange ']' 'z', .setClose, .literal ']', .star] =
            constructs.flatMap Construct.events ∧
          (∀ construct ∈ constructs, construct.WellFormed) ∧
          constructs.filterMap Construct.setText? = ["]-z".toList] := by
  have reads : events? (some ']') "[]]-z]]*".toList =
      some [.setOpen, .setRange ']' 'z', .setClose, .literal ']', .star] := by
    decide
  have contents : setContents (some ']') false "[]]-z]]*".toList = ["]-z".toList] := by
    simp [setContents, Member.gather?]
  refine ⟨reads, ?_⟩
  rw [← contents]
  exact exists_constructs_with_contents reads

end WildcardDiff
