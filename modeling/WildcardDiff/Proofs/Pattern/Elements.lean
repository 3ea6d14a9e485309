import WildcardDiff.Proofs.Pattern.Construct
import WildcardDiff.Proofs.Pattern.Matching

/-!
# Elements of constructs

Every construct becomes one element of the pattern, and so one of its portions. The set
that a construct makes holds what one of its choices holds: adding a choice neither
loses nor invents anything, and a choice that comes twice counts once.
-/

namespace WildcardDiff

/-- While letter case counts, it is not removed. -/
theorem Options.folding_eq_exact
    {options : Options}
    (caseful : options.ignoreCase = false) :
    options.folding = .exact := by
  unfold folding
  rw [caseful]
  rfl

namespace CharSet

variable (set : CharSet)

@[simp] theorem ignoreCase_addMember (member : Text) :
    (set.addMember member).ignoreCase = set.ignoreCase := by
  unfold addMember
  split <;> rfl

theorem holds_addMember (member text : Text) :
    (set.addMember member).holds text = (set.holds text || text = member) := by
  unfold addMember
  split
  · rename_i present
    by_cases same : text = member
    · have held : set.holds text = true := by
        unfold holds
        rw [same, present, Bool.true_or]
      rw [held, Bool.true_or]
    · simp [same]
  · unfold holds
    simp only [List.contains_append, List.contains_cons, List.contains_nil, Bool.or_false]
    rw [Bool.or_right_comm, Bool.beq_eq_decide_eq]

theorem holds_addRange (low high text : Text) :
    (set.addRange low high).holds text =
      (set.holds text ||
        (text.length = 1 && (Text.atMost low text && Text.atMost text high))) := by
  unfold addRange holds
  simp only [List.any_append, List.any_cons, List.any_nil, Bool.or_false]
  rw [Bool.and_or_distrib_left, Bool.or_assoc]

end CharSet

namespace Choice

/-- Add a choice to a set. -/
def addTo (set : CharSet) : Choice -> CharSet
  | .one char => set.addMember [char]
  | .range low high => set.addRange [low] [high]

/-- Whether a text is what a choice offers. Only a single character lies in a range. -/
def holds (text : Text) : Choice -> Bool
  | .one char => text = [char]
  | .range low high =>
      text.length = 1 && (Text.atMost [low] text && Text.atMost text [high])

@[simp] theorem ignoreCase_addTo (set : CharSet) (choice : Choice) :
    (addTo set choice).ignoreCase = set.ignoreCase := by
  cases choice with
  | one char => exact set.ignoreCase_addMember [char]
  | range low high => rfl

theorem holds_addTo (set : CharSet) (choice : Choice) (text : Text) :
    (addTo set choice).holds text = (set.holds text || choice.holds text) := by
  cases choice with
  | one char => exact set.holds_addMember [char] text
  | range low high => exact set.holds_addRange [low] [high] text

end Choice

namespace Construct

/-- The set that choices make. -/
def charSet (ignoreCase : Bool) (choices : List Choice) : CharSet :=
  choices.foldl Choice.addTo (.empty ignoreCase)

/-- The element that a construct becomes. -/
def element (options : Options) : Construct -> Element
  | .literal char => .literal (options.folding.apply [char])
  | .star => .anyRun
  | .question => .anyChar
  | .set choices => .oneOf (charSet options.ignoreCase choices)

theorem ignoreCase_charSet (ignoreCase : Bool) (choices : List Choice) :
    (charSet ignoreCase choices).ignoreCase = ignoreCase := by
  have adding : ∀ set : CharSet,
      (choices.foldl Choice.addTo set).ignoreCase = set.ignoreCase := by
    induction choices with
    | nil => exact fun set => rfl
    | cons choice choices inductionHypothesis =>
        intro set
        rw [List.foldl_cons, inductionHypothesis, Choice.ignoreCase_addTo]
  exact adding (.empty ignoreCase)

/-- A set holds a text exactly if one of its choices does. -/
theorem holds_charSet (ignoreCase : Bool) (choices : List Choice) (text : Text) :
    (charSet ignoreCase choices).holds text = choices.any (Choice.holds text) := by
  have adding : ∀ set : CharSet, (choices.foldl Choice.addTo set).holds text =
      (set.holds text || choices.any (Choice.holds text)) := by
    induction choices with
    | nil => simp
    | cons choice choices inductionHypothesis =>
        intro set
        rw [List.foldl_cons, inductionHypothesis, Choice.holds_addTo, List.any_cons,
          Bool.or_assoc]
  rw [charSet, adding]
  simp [CharSet.holds, CharSet.empty]

end Construct

namespace Element

/-- The members and the end of a set that is open make one element. -/
theorem ofEventsFrom_choices
    (options : Options)
    (set : CharSet)
    (choices : List Choice)
    (events : List Event) :
    ofEventsFrom options set (choices.map Choice.event ++ .setClose :: events) =
      .oneOf (choices.foldl Choice.addTo set) ::
        ofEventsFrom options (choices.foldl Choice.addTo set) events := by
  induction choices generalizing set with
  | nil => rfl
  | cons choice choices inductionHypothesis =>
      cases choice with
      | one char => exact inductionHypothesis (set.addMember [char])
      | range low high => exact inductionHypothesis (set.addRange [low] [high])

/-- Every construct becomes one element. -/
theorem ofEvents_constructs (options : Options) (constructs : List Construct) :
    ofEvents options (constructs.flatMap Construct.events) =
      constructs.map (Construct.element options) := by
  have whatever : ∀ set : CharSet,
      ofEventsFrom options set (constructs.flatMap Construct.events) =
        constructs.map (Construct.element options) := by
    induction constructs with
    | nil => exact fun set => rfl
    | cons construct constructs inductionHypothesis =>
        intro set
        rw [List.flatMap_cons, List.map_cons]
        cases construct with
        | literal char => exact congrArg _ (inductionHypothesis set)
        | star => exact congrArg _ (inductionHypothesis set)
        | question => exact congrArg _ (inductionHypothesis set)
        | set choices =>
            simp only [Construct.events, List.cons_append, List.append_assoc,
              List.nil_append, ofEventsFrom]
            rw [ofEventsFrom_choices, inductionHypothesis]
            rfl
  exact whatever (.empty options.ignoreCase)

end Element

/-- The portion that a construct is to a pattern. -/
def Construct.charPortion (options : Options) (construct : Construct) : Portion Char :=
  (construct.element options).charPortion options.folding

theorem Construct.isOne_charPortion
    (options : Options)
    (construct : Construct)
    (notRun : construct ≠ .star) :
    (construct.charPortion options).isOne = true := by
  cases construct with
  | star => exact absurd rfl notRun
  | _ => rfl

/-- The elements of a pattern are those of its constructs. -/
theorem Pattern.elements_of_events
    {pattern : Pattern}
    {constructs : List Construct}
    (events : pattern.events = constructs.flatMap Construct.events) :
    pattern.elements = constructs.map (Construct.element pattern.options) := by
  unfold elements
  rw [events, Element.ofEvents_constructs]

/-- The portions of a pattern are those of its constructs. -/
theorem Pattern.portions_of_events
    {pattern : Pattern}
    {constructs : List Construct}
    (events : pattern.events = constructs.flatMap Construct.events) :
    pattern.portions = constructs.map (Construct.charPortion pattern.options) := by
  unfold portions
  rw [elements_of_events events, List.map_map]
  rfl

end WildcardDiff
