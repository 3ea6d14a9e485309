import WildcardDiff.Proofs.Regex.Letter
import WildcardDiff.Proofs.Regex.Agreement
import WildcardDiff.Proofs.Pattern.Escape

/-!
# Agreement when letter case is ignored

A pattern that ignores letter case folds its literals, and looks in a set for a
character, its lower case and its upper case. A regular expression compares letters
instead, and takes no less: whatever a pattern matches is captured, as long as every set
takes the characters that it lists. The sets that do not list a capital letter from
above the basic plane next to something else.
-/

namespace WildcardDiff

namespace Letter

/-- Whether a character is one of the forms in which a set is asked for a character. -/
def IsForm (char form : Char) : Prop :=
  form = char ∨ Case.lower char = [form] ∨ Case.upper char = [form]

theorem IsForm.same {char form : Char} (isForm : IsForm char form) :
    same char form = true := by
  rcases isForm with rfl | lowered | raised
  · exact same_self form
  · exact same_of_lower lowered
  · exact same_of_upper raised

theorem IsForm.small_or_capital
    {char form : Char}
    (isForm : IsForm char form)
    (astral : 0x10000 ≤ form.toNat) :
    form = Case.small char ∨ form = Case.capital (Case.small char) := by
  rcases isForm with rfl | lowered | raised
  · exact Case.eq_small_or_capital astral
  · exact .inl (Case.small_of_lower lowered)
  · exact Case.eq_small_or_capital_of_upper raised astral

end Letter

theorem Choice.exists_of_holds
    {choice : Choice}
    {text : Text}
    (holds : choice.holds text = true) :
    ∃ char, text = [char] ∧ choice.item.accepts char = true := by
  have single : ∃ char, text = [char] := by
    cases choice with
    | one char => exact ⟨char, by simpa [Choice.holds] using holds⟩
    | range low high =>
        simp only [Choice.holds, Bool.and_eq_true, decide_eq_true_eq] at holds
        exact List.length_eq_one_iff.mp holds.1
  obtain ⟨char, rfl⟩ := single
  exact ⟨char, rfl, by rwa [← choice.holds_singleton]⟩

/-- While letter case is ignored, a set takes a character exactly if one of its choices
is a form of the character. -/
theorem Construct.contains_charSet_iff {choices : List Choice} {char : Char} :
    (charSet true choices).contains [char] = true ↔
      ∃ choice ∈ choices, ∃ form,
        Letter.IsForm char form ∧ choice.item.accepts form = true := by
  unfold CharSet.contains CharSet.forms
  rw [ignoreCase_charSet]
  simp only [if_true, List.any_cons, List.any_nil, Bool.or_false, Bool.or_eq_true,
    holds_charSet, List.any_eq_true, Case.lowerText_singleton, Case.upperText_singleton]
  constructor
  · rintro (⟨choice, listed, holds⟩ | ⟨choice, listed, holds⟩ | ⟨choice, listed, holds⟩)
    · obtain ⟨form, equal, accepts⟩ := Choice.exists_of_holds holds
      exact ⟨choice, listed, form, .inl (List.singleton_inj.mp equal).symm, accepts⟩
    · obtain ⟨form, equal, accepts⟩ := Choice.exists_of_holds holds
      exact ⟨choice, listed, form, .inr (.inl equal), accepts⟩
    · obtain ⟨form, equal, accepts⟩ := Choice.exists_of_holds holds
      exact ⟨choice, listed, form, .inr (.inr equal), accepts⟩
  · rintro ⟨choice, listed, form, isForm, accepts⟩
    rw [← choice.holds_singleton] at accepts
    rcases isForm with rfl | lowered | raised
    · exact .inl ⟨choice, listed, accepts⟩
    · exact .inr (.inl ⟨choice, listed, lowered ▸ accepts⟩)
    · exact .inr (.inr ⟨choice, listed, raised ▸ accepts⟩)

/-! ## Sets of regular expressions -/

namespace Regex

theorem isBasic_iff {char : Char} : isBasic char = true ↔ char.toNat < 0x10000 := by
  simp [isBasic]

/-- Whether an item accepts a character depends on the small letter alone. -/
theorem Item.acceptsLetter_congr
    {left right : Char}
    (equal : Case.small left = Case.small right)
    (item : Item) :
    item.acceptsLetter left = item.acceptsLetter right := by
  cases item with
  | one listed => simp [Item.acceptsLetter, Letter.same, equal]
  | range low high => simp [Item.acceptsLetter, Letter.variants, equal]

/-- A range accepts every character of which it holds a form. -/
theorem Item.acceptsLetter_range
    {low high char form : Char}
    (isForm : Letter.IsForm char form)
    (within : inRange low high form = true) :
    (Item.range low high).acceptsLetter char = true := by
  simp only [Item.acceptsLetter, Bool.or_eq_true, List.any_eq_true, Bool.and_eq_true]
  by_cases basic : isBasic form = true
  · exact .inl ⟨form, Letter.mem_variants_iff.mpr isForm.same, basic, within⟩
  · have astral : 0x10000 ≤ form.toNat :=
      Nat.not_lt.mp fun below => basic (isBasic_iff.mpr below)
    have highAstral : isBasic high = false := by
      have atMost : form ≤ high := by
        simp only [inRange, Bool.and_eq_true, decide_eq_true_eq] at within
        exact within.2
      have order : form.toNat ≤ high.toNat := atMost
      apply Bool.eq_false_iff.mpr
      intro basicHigh
      have below := isBasic_iff.mp basicHigh
      omega
    refine .inr ⟨by rw [highAstral]; rfl, ?_⟩
    rcases isForm.small_or_capital astral with equal | equal
    · exact .inl (equal ▸ within)
    · exact .inr (equal ▸ within)

/-- A set of one character is that character, any other one accepts what one of its items
accepts. -/
theorem Class.accepts_set_iff {items : List Item} {char : Char} :
    (Class.set items).accepts true char = true ↔
      (∃ expected, items.eraseDups = [.one expected] ∧ Letter.same expected char = true) ∨
        ((∀ expected, items.eraseDups ≠ [.one expected]) ∧
          ∃ item ∈ items, item.acceptsLetter char = true) := by
  unfold Class.accepts
  simp only [if_true]
  split
  · rename_i expected single
    simp [single]
  · rename_i several
    simp only [List.any_eq_true, List.mem_eraseDups]
    constructor
    · intro accepts
      exact .inr ⟨several, accepts⟩
    · rintro (⟨expected, single, -⟩ | ⟨-, accepts⟩)
      · exact absurd single (several expected)
      · exact accepts

/-- A set that takes the characters that it lists takes every character of which an item
accepts a form. -/
theorem Class.accepts_set_of_isForm
    {items : List Item}
    {item : Item}
    {char form : Char}
    (takesListed : ∀ listed,
      .one listed ∈ items -> (Class.set items).accepts true listed = true)
    (present : item ∈ items)
    (isForm : Letter.IsForm char form)
    (accepts : item.accepts form = true) :
    (Class.set items).accepts true char = true := by
  rw [accepts_set_iff]
  by_cases single : ∃ expected, items.eraseDups = [.one expected]
  · obtain ⟨expected, single⟩ := single
    refine .inl ⟨expected, single, ?_⟩
    rw [← List.mem_eraseDups, single, List.mem_singleton] at present
    subst present
    obtain rfl : expected = form := by simpa [Item.accepts] using accepts
    exact Letter.same_symm isForm.same
  · have several : ∀ expected, items.eraseDups ≠ [.one expected] :=
      fun expected equal => single ⟨expected, equal⟩
    refine .inr ⟨several, ?_⟩
    cases item with
    | range low high =>
        exact ⟨.range low high, present, Item.acceptsLetter_range isForm accepts⟩
    | one listed =>
        obtain rfl : listed = form := by simpa [Item.accepts] using accepts
        have alike := Letter.same_symm isForm.same
        by_cases basic : isBasic (Case.small listed) = true
        · refine ⟨.one listed, present, ?_⟩
          simp only [Item.acceptsLetter, basic, if_true]
          exact alike
        · -- Above the basic plane the set takes the listed character itself.
          have taken := takesListed listed present
          rw [accepts_set_iff] at taken
          rcases taken with ⟨expected, equal, -⟩ | ⟨-, other, known, accepted⟩
          · exact absurd equal (several expected)
          · have equal := Letter.small_eq_of_same alike (Bool.eq_false_iff.mpr basic)
            exact ⟨other, known, by rwa [← Item.acceptsLetter_congr equal other]⟩

/-- A set takes a character that it lists if the small letter lies in the basic plane,
or is the character itself. -/
theorem Class.accepts_listed
    {items : List Item}
    {listed : Char}
    (present : .one listed ∈ items)
    (plain : isBasic (Case.small listed) = true ∨ Case.small listed = listed) :
    (Class.set items).accepts true listed = true := by
  rw [accepts_set_iff]
  by_cases single : ∃ expected, items.eraseDups = [.one expected]
  · obtain ⟨expected, single⟩ := single
    rw [← List.mem_eraseDups, single, List.mem_singleton] at present
    cases present
    exact .inl ⟨listed, single, Letter.same_self listed⟩
  · refine .inr ⟨fun expected equal => single ⟨expected, equal⟩, .one listed, present, ?_⟩
    by_cases basic : isBasic (Case.small listed) = true
    · simp [Item.acceptsLetter, basic]
    · simpa [Item.acceptsLetter, basic, eq_comm] using plain

/-- Whether a piece takes the characters that it lists, if it is a set. -/
def Piece.takesListed (ignoreCase : Bool) (piece : Piece) : Bool :=
  match piece.term with
  | .one (.set items) =>
      items.all fun item =>
        match item with
        | .one listed => (Class.set items).accepts ignoreCase listed
        | .range _ _ => true
  | _ => true

end Regex

namespace Construct

/-- Whether a construct takes the characters that it lists, if it is a set. -/
def TakesListed (construct : Construct) : Prop :=
  ∀ choices, construct = .set choices -> ∀ listed, .one listed ∈ choices ->
    (Regex.Class.set (choices.map Choice.item)).accepts true listed = true

theorem one_mem_items_iff {choices : List Choice} {listed : Char} :
    .one listed ∈ choices.map Choice.item ↔ .one listed ∈ choices := by
  rw [List.mem_map]
  constructor
  · rintro ⟨choice, present, equal⟩
    cases choice with
    | one char =>
        cases equal
        exact present
    | range low high => cases equal
  · intro present
    exact ⟨.one listed, present, rfl⟩

theorem takesListed_piece_iff {capturing : Bool} {construct : Construct} :
    (construct.piece capturing).takesListed true = true ↔ construct.TakesListed := by
  unfold TakesListed
  cases construct with
  | set choices =>
      simp only [Construct.piece, Regex.Piece.takesListed, List.all_eq_true,
        Construct.set.injEq, forall_eq']
      constructor
      · intro takes listed present
        exact takes (.one listed) (one_mem_items_iff.mpr present)
      · intro takes item present
        cases item with
        | one listed => exact takes listed (one_mem_items_iff.mp present)
        | range low high => rfl
  | _ => simp [Construct.piece, Regex.Piece.takesListed]

variable {options : Options}

theorem folding_cases (ignores : options.ignoreCase = true) :
    options.folding = .lower ∨ options.folding = .full := by
  unfold Options.folding
  rw [ignores]
  cases options.cultureInvariant
  · exact .inr rfl
  · exact .inl rfl

theorem same_of_folding_eq
    (ignores : options.ignoreCase = true)
    {left right : Char}
    (equal : options.folding.apply [left] = options.folding.apply [right]) :
    Letter.same left right = true := by
  rcases folding_cases ignores with folding | folding
  · rw [folding] at equal
    exact Letter.same_of_lower_eq (by simpa [Folding.apply] using equal)
  · rw [folding] at equal
    exact Letter.same_of_fold_eq (by simpa [Folding.apply] using equal)

/-- While letter case is ignored, a regular expression takes what the pattern takes. -/
theorem portion_covers
    (ignores : options.ignoreCase = true)
    {construct : Construct}
    (takesListed : construct.TakesListed) :
    Portion.Covers (fun _ => True) (construct.portion true)
      (construct.charPortion options) := by
  cases construct with
  | literal char =>
      intro given _ takes
      have equal : options.folding.apply [char] = options.folding.apply [given] := by
        simpa [Element.takes, Folding.symbol] using takes
      exact same_of_folding_eq ignores equal
  | star => trivial
  | question => exact fun _ _ _ => rfl
  | set choices =>
      intro given _ takes
      have contains : (charSet true choices).contains [given] = true := ignores ▸ takes
      obtain ⟨choice, present, form, isForm, accepts⟩ := contains_charSet_iff.mp contains
      refine Regex.Class.accepts_set_of_isForm ?_
        (List.mem_map_of_mem present) isForm accepts
      intro listed among
      exact takesListed choices rfl listed (one_mem_items_iff.mp among)

/-! ## A text that shows what a set takes -/

theorem isOne_portion
    (ignoreCase : Bool)
    (construct : Construct)
    (notRun : construct ≠ .star) :
    (construct.portion ignoreCase).isOne = true := by
  cases construct with
  | star => exact absurd rfl notRun
  | _ => rfl

/-- If the regular expression takes a sample of all constructs but one set, and a
character in the place of the set, then the set takes the character. -/
theorem accepts_of_samples
    {front back : List Construct}
    {choices : List Choice}
    {filler char : Char}
    (accepts : Portion.Accepts
      ((front ++ .set choices :: back).map (Construct.portion true))
      (front.flatMap (sample filler) ++ char :: back.flatMap (sample filler))) :
    (Regex.Class.set (choices.map Choice.item)).accepts true char = true := by
  rw [List.map_append, List.map_cons] at accepts
  exact accepts.fits_of_tight (length_samples_le (isOne_portion true) front filler)
    (length_samples_le (isOne_portion true) back filler)

end Construct

/-! ## Patterns -/

section

variable {pattern : Pattern} {constructs : List Construct}

theorem Regex.takesListed_pieces_iff :
    ((Regex.Frame.whole constructs).pieces true).all
      (Regex.Piece.takesListed true) = true ↔
      ∀ construct ∈ constructs, construct.TakesListed := by
  have pieces : (Regex.Frame.whole constructs).pieces true =
      ⟨.start, false⟩ ::
        (constructs.map (Construct.piece true) ++ [⟨.finish, false⟩]) := rfl
  have start : Regex.Piece.takesListed true ⟨.start, false⟩ = true := rfl
  have finish : Regex.Piece.takesListed true ⟨.finish, false⟩ = true := rfl
  rw [pieces, List.all_cons, List.all_append, List.all_map]
  simp only [List.all_cons, List.all_nil, start, finish, Bool.true_and, Bool.and_true,
    List.all_eq_true, Function.comp_apply, Construct.takesListed_piece_iff]

/-- What a pattern matches, its capturing regular expression matches, if every set takes
the characters that it lists. -/
theorem Pattern.isSome_fullMatch_of_isMatch
    (ignores : pattern.options.ignoreCase = true)
    (events : pattern.events = constructs.flatMap Construct.events)
    (takesListed : ∀ construct ∈ constructs, construct.TakesListed)
    {line : Text}
    (matched : pattern.isMatch line = true) :
    (Regex.fullMatch true ((Regex.Frame.whole constructs).pieces true) line).isSome =
      true := by
  rw [isMatch_iff_accepts, portions_of_events events] at matched
  rw [Regex.Frame.isSome_fullMatch_whole]
  refine matched.map_mono ?_ (fun _ _ => trivial)
  exact fun construct present =>
    construct.portion_covers ignores (takesListed construct present)

/-- If every line that a pattern matches is matched by the capturing regular expression,
then every set takes the characters that it lists. -/
theorem Pattern.takesListed_of_isSome_fullMatch
    (ignores : pattern.options.ignoreCase = true)
    (events : pattern.events = constructs.flatMap Construct.events)
    (wellFormed : ∀ construct ∈ constructs, construct.WellFormed)
    (recovers : ∀ line, pattern.isMatch line = true ->
      (Regex.fullMatch true
        ((Regex.Frame.whole constructs).pieces true) line).isSome = true) :
    ∀ construct ∈ constructs, construct.TakesListed := by
  rintro _ present choices rfl listed among
  obtain ⟨front, back, rfl⟩ := List.append_of_mem present
  have matched : pattern.isMatch (front.flatMap (Construct.sample 'a') ++
      listed :: back.flatMap (Construct.sample 'a')) = true := by
    rw [isMatch_iff_accepts, portions_of_events events, List.map_append, List.map_cons,
      Portion.accepts_append]
    refine ⟨_, _, rfl, ?_, ?_⟩
    · apply Construct.accepts_samples
      exact fun construct inFront => wellFormed construct (List.mem_append_left _ inFront)
    · refine .take ?_ ?_
      · have contains : (Construct.charSet true choices).contains [listed] = true :=
          Construct.contains_charSet_iff.mpr
            ⟨.one listed, among, listed, .inl rfl, by
              simp [Choice.item, Regex.Item.accepts]⟩
        exact ignores ▸ contains
      · apply Construct.accepts_samples
        exact fun construct inBack =>
          wellFormed construct (List.mem_append_right _ (List.mem_cons_of_mem _ inBack))
  exact Construct.accepts_of_samples
    ((Regex.Frame.isSome_fullMatch_whole _ _).mp (recovers _ matched))

end

/-- The capturing regular expression of a pattern that ignores letter case always
compiles. It matches every line that the pattern matches, so that an analyzer recovers
the captures and never falls back to placeholders, exactly if every set takes the
characters that it lists. -/
theorem Pattern.recovers_captures_iff
    (pattern : Pattern)
    (ignores : pattern.options.ignoreCase = true) :
    ∃ pieces, pattern.compileRegex? true = some pieces ∧
      ((∀ line, pattern.isMatch line = true ->
          ∃ groups, Regex.fullMatch pattern.options.ignoreCase pieces line = some groups ∧
            ∀ analyzer : Analyzer, analyzer.extract = Pattern.extract ->
              ∀ journal, (analyzer.captures pattern line).run.run journal =
                (.ok (groups.map Value.ofText), journal)) ↔
        pieces.all (Regex.Piece.takesListed pattern.options.ignoreCase) = true) := by
  obtain ⟨constructs, wellFormed, events⟩ := pattern.exists_constructs
  have compiled := compileRegex?_capturing wellFormed events
  refine ⟨_, compiled, ?_⟩
  rw [ignores, Regex.takesListed_pieces_iff]
  constructor
  · intro recovers
    refine takesListed_of_isSome_fullMatch ignores events wellFormed ?_
    intro line matched
    obtain ⟨groups, found, -⟩ := recovers line matched
    rw [found]
    rfl
  · intro takesListed line matched
    obtain ⟨groups, found⟩ := Option.isSome_iff_exists.mp
      (isSome_fullMatch_of_isMatch ignores events takesListed matched)
    refine ⟨groups, found, ?_⟩
    intro analyzer extracts
    apply analyzer.captures_eq
    rw [extracts]
    unfold extract
    rw [compiled]
    simp only [ignores, found]

/-- A range of capitals, a run and a final sigma, and a line with other cases of them. -/
theorem Pattern.recovers_captures_example :
    ∃ pattern : Pattern, pattern.text = "[R-T]*ς".toList ∧
      pattern.options.ignoreCase = true ∧
      pattern.isMatch "ſxyΣ".toList = true ∧
      ∀ journal, (Analyzer.captures {} pattern "ſxyΣ".toList).run.run journal =
        (.ok (["ſ".toList, "xy".toList].map Value.ofText), journal) := by
  let pattern : Pattern :=
    ⟨"[R-T]*ς".toList, none, ⟨2⟩,
      [.setOpen, .setRange 'R' 'T', .setClose, .star, .literal 'ς'],
      by decide, by decide⟩
  have ignores : pattern.options.ignoreCase = true := by decide
  obtain ⟨pieces, compiled, recovers⟩ := pattern.recovers_captures_iff ignores
  have known : pattern.compileRegex? true = some
      [⟨.start, false⟩, ⟨.one (.set [.range 'R' 'T']), true⟩, ⟨.run true, true⟩,
        ⟨.one (.single 'ς'), false⟩, ⟨.finish, false⟩] := by
    decide
  obtain rfl := Option.some.inj (compiled.symm.trans known)
  have matched : pattern.isMatch "ſxyΣ".toList = true := by decide +kernel
  obtain ⟨groups, found, returned⟩ := recovers.mpr rfl _ matched
  have texts : groups = ["ſ".toList, "xy".toList] :=
    Option.some.inj (found.symm.trans (by decide +kernel))
  refine ⟨pattern, rfl, ignores, matched, ?_⟩
  intro journal
  rw [returned {} rfl, texts]

/-- Where the capturing expression does not match, the placeholder stands for every
wildcard. -/
theorem Analyzer.captures_of_noMatch
    (analyzer : Analyzer)
    {pattern : Pattern}
    {line : Text}
    (lost : analyzer.extract pattern line = .noMatch)
    (journal : Log.Journal) :
    ((analyzer.captures pattern line).run.run journal).1 =
      .ok (List.replicate pattern.wildcardCount analyzer.placeholder) := by
  unfold captures
  rw [lost]
  rfl

/-- A set that lists a capital letter from above the basic plane next to something else
does not take it in a regular expression, so that a placeholder stands for what the
pattern matches. -/
theorem Pattern.loses_capture_above_basic_plane :
    ∃ pattern : Pattern, pattern.text = ['[', Char.ofNat 0x10400, 'a', ']'] ∧
      pattern.options.ignoreCase = true ∧
      pattern.isMatch [Char.ofNat 0x10400] = true ∧
      (pattern.compileRegex? true).map
        (Regex.fullMatch true · [Char.ofNat 0x10400]) = some none ∧
      ∀ journal, ((Analyzer.captures {} pattern [Char.ofNat 0x10400]).run.run journal).1 =
        .ok [.text defaultPlaceholder] := by
  let pattern : Pattern :=
    ⟨['[', Char.ofNat 0x10400, 'a', ']'], none, ⟨2⟩,
      [.setOpen, .setMember (Char.ofNat 0x10400), .setMember 'a', .setClose],
      by decide, by decide⟩
  have lost : Pattern.extract pattern [Char.ofNat 0x10400] = .noMatch := by decide +kernel
  refine ⟨pattern, rfl, by decide, by decide +kernel, by decide +kernel, ?_⟩
  exact Analyzer.captures_of_noMatch {} lost

end WildcardDiff
