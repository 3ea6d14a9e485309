import WildcardDiff.Proofs.Regex.Agreement

/-!
# What captures say

The captures of a line that a pattern matches cut the line: put in the places of the
wildcards they give the line back, and each of them is what its wildcard stands for. A
line can often be cut in several ways. The lengths of a lazy run are tried from the
shortest on, and those of a later run before the next length of an earlier one, so the
captures are the cut whose lengths of runs come first in lexicographic order.
-/

namespace WildcardDiff

/-- The text that events say if captures stand in the places of the wildcards, provided
that there are as many captures as wildcards. -/
def Event.fill : List Event → List Text → Option Text
  | [], captures => if captures = [] then some [] else none
  | .literal char :: events, captures => (fill events captures).map (char :: ·)
  | event :: events, captures =>
      if event.isWildcard then
        match captures with
        | [] => none
        | capture :: others => (fill events others).map (capture ++ ·)
      else
        fill events captures

namespace Element

/-- Whether an element is a literal, which captures nothing. -/
def isLiteral : Element → Bool
  | .literal _ => true
  | _ => false

/-- How many characters the runs among wildcards capture. -/
def runExtents (wildcards : List Element) (captures : List Text) : List Nat :=
  (wildcards.zip captures).filterMap fun
    | (.anyRun, capture) => some capture.length
    | _ => none

end Element

namespace Pattern

/-- The elements of a pattern that its wildcards make. -/
def wildcards (pattern : Pattern) : List Element :=
  pattern.elements.filter fun element => !element.isLiteral

/-- Whether captures cut a line for a pattern: they give the line back, and each of them
is what its wildcard stands for. -/
structure Cuts (pattern : Pattern) (captures : List Text) (line : Text) : Prop where
  fill : Event.fill pattern.events captures = some line
  fits : List.Forall₂ (Element.Fits pattern.options.folding) pattern.wildcards captures

end Pattern

/-! ## Cuts for constructs -/

namespace Construct

/-- Whether captures cut a line for constructs. -/
inductive Cuts (options : Options) : List Construct → List Text → Text → Prop
  | nil : Cuts options [] [] []
  | literal {char : Char} {constructs : List Construct} {captures : List Text}
      {rest : Text} :
      Cuts options constructs captures rest →
      Cuts options (.literal char :: constructs) captures (char :: rest)
  | wildcard {construct : Construct} {constructs : List Construct} {capture : Text}
      {captures : List Text} {rest : Text} :
      (construct.element options).isLiteral = false →
      (construct.element options).Fits options.folding capture →
      Cuts options constructs captures rest →
      Cuts options (construct :: constructs) (capture :: captures) (capture ++ rest)

/-- The elements that the wildcards among constructs make. -/
def wildcards (options : Options) (constructs : List Construct) : List Element :=
  (constructs.map (element options)).filter fun element => !element.isLiteral

/-- How many characters the runs among constructs capture. -/
def runExtents (options : Options) (constructs : List Construct) (captures : List Text) :
    List Nat :=
  Element.runExtents (wildcards options constructs) captures

section

variable
  {options : Options}
  {construct : Construct}
  {constructs : List Construct}
  {captures : List Text}
  {line : Text}

theorem cuts_nil_iff : Cuts options [] captures line ↔ captures = [] ∧ line = [] := by
  constructor
  · intro cuts
    cases cuts
    exact ⟨rfl, rfl⟩
  · rintro ⟨rfl, rfl⟩
    exact .nil

theorem cuts_literal_cons_iff {char : Char} :
    Cuts options (.literal char :: constructs) captures line ↔
      ∃ rest, line = char :: rest ∧ Cuts options constructs captures rest := by
  constructor
  · intro cuts
    cases cuts with
    | literal cuts => exact ⟨_, rfl, cuts⟩
    | wildcard isWildcard => cases isWildcard
  · rintro ⟨rest, rfl, cuts⟩
    exact .literal cuts

theorem cuts_wildcard_cons_iff
    (isWildcard : (construct.element options).isLiteral = false) :
    Cuts options (construct :: constructs) captures line ↔
      ∃ capture others rest, captures = capture :: others ∧ line = capture ++ rest ∧
        (construct.element options).Fits options.folding capture ∧
        Cuts options constructs others rest := by
  constructor
  · intro cuts
    cases cuts with
    | literal => cases isWildcard
    | wildcard _ fits cuts => exact ⟨_, _, _, rfl, rfl, fits, cuts⟩
  · rintro ⟨capture, others, rest, rfl, rfl, fits, cuts⟩
    exact .wildcard isWildcard fits cuts

/-! ## Cuts for events -/

theorem fill_choices
    (choices : List Choice)
    (events : List Event)
    (captures : List Text) :
    Event.fill (choices.map Choice.event ++ .setClose :: events) captures =
      Event.fill events captures := by
  induction choices with
  | nil => simp [Event.fill, Event.isWildcard]
  | cons choice choices inductionHypothesis =>
      cases choice <;>
        simpa [Choice.event, Event.fill, Event.isWildcard] using inductionHypothesis

theorem fill_literal (char : Char) (events : List Event) (captures : List Text) :
    Event.fill ((Construct.literal char).events ++ events) captures =
      (Event.fill events captures).map (char :: ·) := by
  simp [Construct.events, Event.fill]

theorem fill_wildcard
    (isWildcard : (construct.element options).isLiteral = false)
    (events : List Event)
    (captures : List Text) :
    Event.fill (construct.events ++ events) captures =
      match captures with
      | [] => none
      | capture :: others => (Event.fill events others).map (capture ++ ·) := by
  cases construct with
  | literal char => cases isWildcard
  | star => rfl
  | question => rfl
  | set choices =>
      simp only [Construct.events, List.cons_append, List.append_assoc, List.nil_append,
        Event.fill, Event.isWildcard, if_true, fill_choices]

theorem wildcards_cons (construct : Construct) (constructs : List Construct) :
    wildcards options (construct :: constructs) =
      if (construct.element options).isLiteral then wildcards options constructs
      else construct.element options :: wildcards options constructs := by
  unfold wildcards
  rw [List.map_cons, List.filter_cons]
  cases (construct.element options).isLiteral <;> rfl

/-- Captures cut a line for constructs exactly if they do so for the events and the
elements. -/
theorem cuts_iff :
    Cuts options constructs captures line ↔
      Event.fill (constructs.flatMap events) captures = some line ∧
        List.Forall₂ (Element.Fits options.folding)
          (wildcards options constructs) captures := by
  induction constructs generalizing captures line with
  | nil =>
      rw [cuts_nil_iff]
      cases captures <;> simp [Event.fill, wildcards, eq_comm]
  | cons construct constructs inductionHypothesis =>
      rw [List.flatMap_cons, wildcards_cons]
      cases isWildcard : (construct.element options).isLiteral with
      | true =>
          cases construct with
          | literal char =>
              rw [cuts_literal_cons_iff, fill_literal, if_pos rfl]
              simp only [inductionHypothesis, Option.map_eq_some_iff]
              constructor
              · rintro ⟨rest, rfl, filled, fits⟩
                exact ⟨⟨rest, filled, rfl⟩, fits⟩
              · rintro ⟨⟨rest, filled, rfl⟩, fits⟩
                exact ⟨rest, rfl, filled, fits⟩
          | star => cases isWildcard
          | question => cases isWildcard
          | set choices => cases isWildcard
      | false =>
          rw [cuts_wildcard_cons_iff isWildcard, fill_wildcard isWildcard,
            if_neg Bool.false_ne_true, List.forall₂_cons_left_iff]
          simp only [inductionHypothesis]
          constructor
          · rintro ⟨capture, others, rest, rfl, rfl, fit, filled, fits⟩
            exact ⟨by simp only [filled, Option.map_some], capture, others, fit,
              fits, rfl⟩
          · rintro ⟨filled, capture, others, fit, fits, rfl⟩
            simp only [Option.map_eq_some_iff] at filled
            obtain ⟨rest, filled, rfl⟩ := filled
            exact ⟨capture, others, rest, rfl, rfl, fit, filled, fits⟩

/-! ## Least cuts -/

/-- Captures cut a line for constructs, and every other cut has larger lengths of runs,
compared from the first run on. -/
structure Least
    (options : Options)
    (constructs : List Construct)
    (captures : List Text)
    (line : Text) : Prop where
  cuts : Cuts options constructs captures line
  least : ∀ other, Cuts options constructs other line →
    other = captures ∨
      runExtents options constructs captures < runExtents options constructs other

namespace Least

variable {rest : Text}

theorem nil : Least options [] [] [] where
  cuts := .nil
  least := by
    intro other cuts
    exact .inl (cuts_nil_iff.mp cuts).1

theorem literal (char : Char) (least : Least options constructs captures rest) :
    Least options (.literal char :: constructs) captures (char :: rest) where
  cuts := .literal least.cuts
  least := by
    intro other cuts
    obtain ⟨_, split, cuts⟩ := cuts_literal_cons_iff.mp cuts
    obtain ⟨-, rfl⟩ := List.cons.inj split
    exact least.least other cuts

/-- A wildcard that is no run takes one character in every cut. -/
theorem one
    {char : Char}
    (kind : construct = .question ∨ ∃ choices, construct = .set choices)
    (fits : (construct.element options).Fits options.folding [char])
    (least : Least options constructs captures rest) :
    Least options (construct :: constructs) ([char] :: captures) (char :: rest) := by
  have isWildcard : (construct.element options).isLiteral = false := by
    obtain rfl | ⟨choices, rfl⟩ := kind <;> rfl
  refine ⟨.wildcard isWildcard fits least.cuts, ?_⟩
  intro other cuts
  obtain ⟨capture, others, _, rfl, split, fit, cuts⟩ :=
    (cuts_wildcard_cons_iff isWildcard).mp cuts
  obtain ⟨given, rfl⟩ : ∃ given, capture = [given] := by
    obtain rfl | ⟨choices, rfl⟩ := kind
    · exact fit
    · exact ⟨fit.choose, fit.choose_spec.1⟩
  obtain ⟨rfl, rfl⟩ := List.cons.inj split
  obtain rfl | smaller := least.least others cuts
  · exact .inl rfl
  · refine .inr ?_
    obtain rfl | ⟨choices, rfl⟩ := kind <;> exact smaller

/-- A run that takes as little as can be comes before what is least behind it. -/
theorem run
    {taken : Text}
    (shortest : ∀ shorter < taken.length, ∀ other,
      ¬Cuts options constructs other ((taken ++ rest).drop shorter))
    (least : Least options constructs captures rest) :
    Least options (.star :: constructs) (taken :: captures) (taken ++ rest) where
  cuts := .wildcard rfl trivial least.cuts
  least := by
    intro other cuts
    obtain ⟨capture, others, left, rfl, split, -, cuts⟩ :=
      (cuts_wildcard_cons_iff rfl).mp cuts
    change _ ∨ taken.length :: runExtents options constructs captures <
      capture.length :: runExtents options constructs others
    rw [List.cons_lt_cons_iff]
    obtain shorter | same | longer := Nat.lt_trichotomy capture.length taken.length
    · refine absurd cuts ?_
      have later := shortest capture.length shorter others
      rwa [split, List.drop_left] at later
    · obtain ⟨rfl, rfl⟩ := List.append_inj split same.symm
      obtain rfl | smaller := least.least others cuts
      · exact .inl rfl
      · exact .inr (.inr ⟨rfl, smaller⟩)
    · exact .inr (.inl longer)

end Least

/-! ## Cuts and portions -/

/-- While letter case counts, a text is what a construct stands for in a pattern exactly
if it is so in the regular expressions. -/
theorem fits_iff (caseful : options.ignoreCase = false) {piece : Text} :
    (construct.element options).Fits options.folding piece ↔
      (construct.portion false).Takes piece := by
  rw [← Element.takes_charPortion_iff, construct.charPortion_element caseful]

/-- A line that is cut for constructs is accepted by their portions. -/
theorem Cuts.accepts
    (caseful : options.ignoreCase = false)
    (cuts : Cuts options constructs captures line) :
    Portion.Accepts (constructs.map (portion false)) line := by
  induction cuts with
  | nil => exact .nil
  | @literal char _ _ _ _ inductionHypothesis =>
      exact .take (by simp [Regex.Class.accepts]) inductionHypothesis
  | @wildcard construct _ capture _ rest isWildcard fit _ inductionHypothesis =>
      have takes := (fits_iff caseful).mp fit
      cases construct with
      | literal char => cases isWildcard
      | star => exact inductionHypothesis.skip capture
      | question =>
          obtain ⟨char, rfl, accepts⟩ := takes
          exact .take accepts inductionHypothesis
      | set choices =>
          obtain ⟨char, rfl, accepts⟩ := takes
          exact .take accepts inductionHypothesis

end

end Construct

/-! ## The match that is found -/

namespace Regex

variable {ignoreCase captured : Bool} {pieces : List Piece} {position : Nat} {rest : Text}

/-- The shortest length that works is chosen by a lazy run. -/
theorem findSome?_runLengths_lazy
    {available : Nat}
    {choice : Nat → Option α}
    {found : α}
    (chosen : (runLengths true available).findSome? choice = some found) :
    ∃ length ≤ available, choice length = some found ∧
      ∀ shorter < length, choice shorter = none := by
  induction available generalizing choice with
  | zero =>
      refine ⟨0, Nat.le_refl 0, by simpa [runLengths] using chosen, ?_⟩
      exact fun shorter impossible => absurd impossible (Nat.not_lt_zero shorter)
  | succ available inductionHypothesis =>
      rw [findSome?_runLengths_succ, if_pos rfl] at chosen
      cases first : choice 0 with
      | some taken =>
          rw [first, Option.some_or] at chosen
          refine ⟨0, Nat.zero_le _, first.trans chosen, ?_⟩
          exact fun shorter impossible => absurd impossible (Nat.not_lt_zero shorter)
      | none =>
          rw [first, Option.none_or] at chosen
          obtain ⟨length, bounded, works, shorterFail⟩ := inductionHypothesis chosen
          refine ⟨length + 1, Nat.succ_le_succ bounded, works, ?_⟩
          intro shorter below
          cases shorter with
          | zero => exact first
          | succ shorter => exact shorterFail shorter (Nat.lt_of_succ_lt_succ below)

/-- A lazy run takes as little as lets the pieces after it match. -/
theorem matchAt_lazy
    {found : Match}
    (matched : matchAt ignoreCase (⟨.run true, captured⟩ :: pieces) position rest =
      some found) :
    ∃ taken left later, rest = taken ++ left ∧
      matchAt ignoreCase pieces (position + taken.length) left = some later ∧
      found = later.capture captured ⟨position, position + taken.length⟩ ∧
      ∀ shorter < taken.length,
        matchAt ignoreCase pieces (position + shorter) (rest.drop shorter) = none := by
  rw [matchAt] at matched
  obtain ⟨length, bounded, works, shorterFail⟩ := findSome?_runLengths_lazy matched
  obtain ⟨later, following, rfl⟩ := Option.map_eq_some_iff.mp works
  have extent : (rest.take length).length = length := List.length_take_of_le bounded
  refine ⟨rest.take length, rest.drop length, later,
    (List.take_append_drop length rest).symm, ?_, ?_, ?_⟩
  · rwa [extent]
  · rw [extent]
  · intro shorter below
    rw [extent] at below
    exact Option.map_eq_none_iff.mp (shorterFail shorter below)

/-- A piece of one character takes the next one. -/
theorem matchAt_one
    {kind : Class}
    {found : Match}
    (matched : matchAt ignoreCase (⟨.one kind, captured⟩ :: pieces) position rest =
      some found) :
    ∃ char left later, rest = char :: left ∧ kind.accepts ignoreCase char = true ∧
      matchAt ignoreCase pieces (position + 1) left = some later ∧
      found = later.capture captured ⟨position, position + 1⟩ := by
  cases rest with
  | nil => cases matched
  | cons char left =>
      rw [matchAt, Option.ite_none_right_eq_some, Option.map_eq_some_iff] at matched
      obtain ⟨accepts, later, following, equal⟩ := matched
      exact ⟨char, left, later, rfl, accepts, following, equal.symm⟩

/-- Whether captures are the texts that a match captured, in every text that goes on in
a given way from a position on. -/
def Match.Reads
    (found : Match)
    (position : Nat)
    (rest : Text)
    (captures : List Text) : Prop :=
  ∀ before : Text, before.length = position →
    found.groups.map (fun span => span.of (before ++ rest)) = captures

namespace Match.Reads

variable {later : Match} {left : Text} {captures : List Text}

/-- What is captured later is read off the later text. -/
theorem keep
    (taken : Text)
    (reads : later.Reads (position + taken.length) left captures) :
    later.Reads position (taken ++ left) captures := by
  rintro before rfl
  rw [← List.append_assoc]
  exact reads (before ++ taken) List.length_append

/-- What is captured first is the text in between. -/
theorem take
    (taken : Text)
    (reads : later.Reads (position + taken.length) left captures) :
    (later.capture true ⟨position, position + taken.length⟩).Reads position
      (taken ++ left)
      (taken :: captures) := by
  rintro before rfl
  have here :
      Span.of ⟨before.length, before.length + taken.length⟩ (before ++ (taken ++ left)) =
        taken := by
    rw [Span.of, List.drop_left, Nat.add_sub_cancel_left, List.take_left]
  change Span.of _ _ :: _ = _
  rw [here, reads.keep taken before rfl]

end Match.Reads

end Regex

namespace Construct

open Regex

variable {options : Options}

/-- The captures of the match that is found are least. By induction on the constructs:
what the matcher tries first at a run leaves the fewest characters to it. -/
theorem least_of_matchAt
    (caseful : options.ignoreCase = false)
    {constructs : List Construct}
    {position : Nat}
    {rest : Text}
    {found : Match}
    (matched : matchAt false (constructs.map (piece true) ++
      [⟨.finish, false⟩, ⟨.finish, false⟩]) position rest = some found) :
    ∃ captures, Least options constructs captures rest ∧
      found.Reads position rest captures := by
  induction constructs generalizing position rest found with
  | nil =>
      simp only [List.map_nil, List.nil_append, matchAt, Option.ite_none_right_eq_some,
        Option.some.injEq] at matched
      obtain ⟨rfl, -, rfl⟩ := matched
      exact ⟨[], .nil, fun _ _ => rfl⟩
  | cons construct constructs inductionHypothesis =>
      rw [List.map_cons, List.cons_append] at matched
      cases construct with
      | literal char =>
          obtain ⟨given, left, later, rfl, accepts, following, rfl⟩ := matchAt_one matched
          obtain rfl : char = given := of_decide_eq_true accepts
          obtain ⟨captures, least, reads⟩ := inductionHypothesis following
          exact ⟨captures, least.literal char, reads.keep [char]⟩
      | star =>
          obtain ⟨taken, left, later, rfl, following, rfl, shorterFail⟩ :=
            matchAt_lazy matched
          obtain ⟨captures, least, reads⟩ := inductionHypothesis following
          refine ⟨taken :: captures, least.run ?_, reads.take taken⟩
          -- Behind a shorter run a cut would have let the later pieces match.
          intro shorter below other cuts
          have fails := shorterFail shorter below
          rw [← Option.not_isSome_iff_eq_none, Frame.isSome_matchAt_closed] at fails
          exact fails (cuts.accepts caseful)
      | question =>
          obtain ⟨given, left, later, rfl, accepts, following, rfl⟩ := matchAt_one matched
          obtain ⟨captures, least, reads⟩ := inductionHypothesis following
          refine ⟨[given] :: captures, .one (.inl rfl) ?_ least, reads.take [given]⟩
          exact (fits_iff caseful).mpr ⟨given, rfl, accepts⟩
      | set choices =>
          obtain ⟨given, left, later, rfl, accepts, following, rfl⟩ := matchAt_one matched
          obtain ⟨captures, least, reads⟩ := inductionHypothesis following
          refine ⟨[given] :: captures, .one (.inr ⟨choices, rfl⟩) ?_ least,
            reads.take [given]⟩
          exact (fits_iff caseful).mpr ⟨given, rfl, accepts⟩

end Construct

namespace Pattern

variable {pattern : Pattern} {constructs : List Construct}

theorem wildcards_of_events
    (events : pattern.events = constructs.flatMap Construct.events) :
    pattern.wildcards = Construct.wildcards pattern.options constructs := by
  unfold wildcards Construct.wildcards
  rw [elements_of_events events]

/-- Captures cut a line for a pattern exactly if they do so for its constructs. -/
theorem cuts_iff
    (events : pattern.events = constructs.flatMap Construct.events)
    {captures : List Text}
    {line : Text} :
    pattern.Cuts captures line ↔
      Construct.Cuts pattern.options constructs captures line := by
  rw [Construct.cuts_iff, ← events, ← wildcards_of_events events]
  exact ⟨fun cuts => ⟨cuts.fill, cuts.fits⟩, fun ⟨fill, fits⟩ => ⟨fill, fits⟩⟩

/-- What the capturing regular expression of a pattern captures is least among the
cuts. -/
theorem least_of_fullMatch
    (caseful : pattern.options.ignoreCase = false)
    {line : Text}
    {captures : List Text}
    (captured : Regex.fullMatch false ((Regex.Frame.whole constructs).pieces true) line =
      some captures) :
    Construct.Least pattern.options constructs captures line := by
  rw [Regex.Frame.fullMatch_whole, Option.map_eq_some_iff] at captured
  obtain ⟨found, matched, rfl⟩ := captured
  obtain ⟨captures, least, reads⟩ := Construct.least_of_matchAt caseful matched
  have same := reads [] rfl
  rw [List.nil_append] at same
  rwa [same]

/-- The captures of a line that matches a pattern that heeds letter case cut the line,
and every other cut has larger lengths of runs, compared from the first run on. An
analyzer that recovers captures with the regular expression returns them, and logs
nothing. -/
theorem captures_least
    (pattern : Pattern)
    (caseful : pattern.options.ignoreCase = false)
    {line : Text}
    (matched : pattern.isMatch line = true) :
    ∃ captures : List Text,
      pattern.extract line = .captured captures ∧
      (∀ analyzer : Analyzer, analyzer.extract = Pattern.extract → ∀ journal,
        (analyzer.captures pattern line).run.run journal =
          (.ok (captures.map Value.ofText), journal)) ∧
      pattern.Cuts captures line ∧
      ∀ other, pattern.Cuts other line →
        other = captures ∨
          Element.runExtents pattern.wildcards captures <
            Element.runExtents pattern.wildcards other := by
  obtain ⟨constructs, wellFormed, events⟩ := pattern.exists_constructs
  have found :
      (Regex.fullMatch false ((Regex.Frame.whole constructs).pieces true) line).isSome =
        true := by
    rwa [Regex.Frame.isSome_fullMatch_whole, ← portions_eq caseful events,
      ← isMatch_iff_accepts]
  obtain ⟨captures, captured⟩ := Option.isSome_iff_exists.mp found
  have extracted : pattern.extract line = .captured captures := by
    unfold extract
    simp only [compileRegex?_capturing wellFormed events, caseful, captured]
  have least := least_of_fullMatch caseful captured
  refine ⟨captures, extracted, ?_, (cuts_iff events).mpr least.cuts, ?_⟩
  · intro analyzer extracts
    exact analyzer.captures_eq (by rw [extracts, extracted])
  · intro other cuts
    rw [wildcards_of_events events]
    exact least.least other ((cuts_iff events).mp cuts)

/-- Two runs side by side, and a third one before a set. The second run could also go on
to the last place where the literal occurs, and leave nothing to the third. -/
theorem captures_least_example :
    ∃ pattern : Pattern, pattern.text = "**a*[a-c]".toList ∧
      pattern.options.ignoreCase = false ∧
      pattern.isMatch "xabac".toList = true ∧
      pattern.Cuts ["".toList, "x".toList, "ba".toList, "c".toList] "xabac".toList ∧
      pattern.Cuts ["".toList, "xab".toList, "".toList, "c".toList] "xabac".toList ∧
      ∀ other, pattern.Cuts other "xabac".toList →
        other = ["".toList, "x".toList, "ba".toList, "c".toList] ∨
          [0, 1, 2] < Element.runExtents pattern.wildcards other := by
  let pattern : Pattern :=
    ⟨"**a*[a-c]".toList, none, .none,
      [.star, .star, .literal 'a', .star, .setOpen, .setRange 'a' 'c', .setClose],
      by decide, by decide⟩
  have caseful : Options.none.ignoreCase = false := by decide
  have matched : pattern.isMatch "xabac".toList = true := by decide +kernel
  obtain ⟨captures, extracted, -, cuts, least⟩ := pattern.captures_least caseful matched
  have known : pattern.extract "xabac".toList =
      .captured ["".toList, "x".toList, "ba".toList, "c".toList] := by
    decide
  obtain rfl := Extraction.captured.inj (extracted.symm.trans known)
  refine ⟨pattern, rfl, caseful, matched, cuts, ⟨by decide, ?_⟩, least⟩
  exact .cons trivial (.cons trivial (.cons trivial (.cons ⟨'c', rfl, by decide⟩ .nil)))

end Pattern
end WildcardDiff
