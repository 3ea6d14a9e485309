import WildcardDiff.Proofs.Pattern.Unescape

/-!
# Patterns in a row

Two pattern texts in a row are a pattern again, unless the escape character joins them:
the first text must not end in it, and the second must not be the escape character
alone, which is the empty pattern only by itself. The events are then those of both
patterns, and what is matched is what the first and then the second pattern matches.
-/

namespace WildcardDiff

/-! ## Glyphs -/

namespace Glyph

variable {escape : Option Char} {front back : Text}

/-- A text that does not end in the escape character shares no glyph with the text after
it. -/
theorem ofText_append
    (closed : ∀ mark, escape = some mark → front.getLast? ≠ some mark)
    (back : Text) :
    ofText escape (front ++ back) = ofText escape front ++ ofText escape back := by
  fun_induction ofText escape front with
  | case1 => rfl
  | case2 char =>
      have unlike : escape ≠ some char := fun escapes => closed char escapes rfl
      exact ofText_cons_of_ne unlike back
  | case3 char next rest escapes inductionHypothesis =>
      rw [List.cons_append, List.cons_append, ofText, if_pos escapes, List.cons_append]
      congr 1
      apply inductionHypothesis
      intro mark same ends
      apply closed mark same
      rw [List.getLast?_cons_cons, List.getLast?_cons, ends]
      rfl
  | case4 char next rest unlike inductionHypothesis =>
      rw [List.cons_append, ofText_cons_of_ne unlike, inductionHypothesis]
      · rfl
      · intro mark same ends
        apply closed mark same
        rw [List.getLast?_cons_cons, ends]

theorem set?_append
    {glyphs members following : List Glyph}
    (found : set? glyphs = some (members, following))
    (others : List Glyph) :
    set? (glyphs ++ others) = some (members, following ++ others) := by
  cases glyphs with
  | nil => cases found
  | cons first rest =>
      rw [set?] at found
      rw [List.cons_append, set?]
      split at found
      · cases found
      · rename_i closing after dropped
        obtain ⟨rfl, rfl⟩ := Prod.mk.inj (Option.some.inj found)
        have closed : (rest.takeWhile (!·.closes)).length ≠ rest.length := by
          have parts := congrArg List.length
            (List.takeWhile_append_dropWhile (p := (!·.closes)) (l := rest))
          rw [dropped, List.length_append, List.length_cons] at parts
          omega
        rw [List.dropWhile_append, List.takeWhile_append, if_neg closed, dropped]
        rfl

/-- The constructs of glyphs in a row, the first of which leave no set open. -/
theorem constructs?_append
    {glyphs : List Glyph}
    {constructs : List Construct}
    (grouped : constructs? glyphs = some constructs)
    (others : List Glyph) :
    constructs? (glyphs ++ others) = (constructs? others).map (constructs ++ ·) := by
  fun_induction constructs? glyphs generalizing constructs with
  | case1 =>
      obtain rfl := Option.some.inj grouped
      simp
  | case2 rest inductionHypothesis =>
      obtain ⟨remaining, following, rfl⟩ := Option.map_eq_some_iff.mp grouped
      rw [List.cons_append, constructs?, if_pos rfl, inductionHypothesis following,
        Option.map_map]
      rfl
  | case3 rest isStar inductionHypothesis =>
      obtain ⟨remaining, following, rfl⟩ := Option.map_eq_some_iff.mp grouped
      rw [List.cons_append, constructs?, if_neg isStar, if_pos rfl,
        inductionHypothesis following, Option.map_map]
      rfl
  | case4 rest members following found isStar isQuestion inductionHypothesis =>
      obtain ⟨remaining, after, rfl⟩ := Option.map_eq_some_iff.mp grouped
      rw [List.cons_append, constructs?, if_neg isStar, if_neg isQuestion, if_pos rfl,
        set?_append found]
      dsimp only
      rw [inductionHypothesis after, Option.map_map]
      rfl
  | case5 rest found isStar isQuestion => cases grouped
  | case6 glyph rest isStar isQuestion opens inductionHypothesis =>
      obtain ⟨remaining, following, rfl⟩ := Option.map_eq_some_iff.mp grouped
      rw [List.cons_append, constructs?, if_neg isStar, if_neg isQuestion, if_neg opens,
        inductionHypothesis following, Option.map_map]
      rfl

/-- The events of glyphs in a row, each of which can be read. -/
theorem events?_append
    {glyphs others : List Glyph}
    {first second : List Event}
    (firstReads : events? glyphs = some first)
    (secondReads : events? others = some second) :
    events? (glyphs ++ others) = some (first ++ second) := by
  obtain ⟨constructs, grouped, ordered⟩ := Option.bind_eq_some_iff.mp firstReads
  obtain ⟨further, furtherGrouped, furtherOrdered⟩ :=
    Option.bind_eq_some_iff.mp secondReads
  obtain ⟨upward, rfl⟩ := Construct.eventsOf?_eq_some_iff.mp ordered
  obtain ⟨furtherUpward, rfl⟩ := Construct.eventsOf?_eq_some_iff.mp furtherOrdered
  rw [events?, constructs?_append grouped, furtherGrouped]
  apply Construct.eventsOf?_eq_some_iff.mpr
  exact ⟨List.forall_mem_append.mpr ⟨upward, furtherUpward⟩, List.flatMap_append.symm⟩

end Glyph

/-! ## Escapes -/

/-- The placing of escapes in texts in a row: behind the first text, an escape is
pending if the text ends in one. -/
theorem escapesOnlyMeta_append (mark : Char) (escaping : Bool) (front back : Text) :
    escapesOnlyMeta mark escaping (front ++ back) =
      (escapesOnlyMeta mark escaping front &&
        escapesOnlyMeta mark
          (front.getLast?.elim escaping fun last => decide (last = mark))
          back) := by
  induction front generalizing escaping with
  | nil => rfl
  | cons char front inductionHypothesis =>
      have last : ((char :: front).getLast?.elim escaping fun last =>
        decide (last = mark)) =
          front.getLast?.elim (decide (char = mark)) fun last =>
            decide (last = mark) := by
        rw [List.getLast?_cons]
        cases front.getLast? <;> rfl
      rw [List.cons_append, escapesOnlyMeta, escapesOnlyMeta, last]
      by_cases same : char = mark
      · simp only [same, if_true, decide_true]
        exact inductionHypothesis true
      · simp only [same, if_false, decide_false, Bool.and_assoc]
        rw [inductionHypothesis false]

theorem escapesPlaced_append
    {escape : Option Char}
    {front back : Text}
    (closed : ∀ mark, escape = some mark → front.getLast? ≠ some mark)
    (frontPlaced : escapesPlaced escape front = true)
    (backPlaced : escapesPlaced escape back = true) :
    escapesPlaced escape (front ++ back) = true := by
  cases escape with
  | none => rfl
  | some mark =>
      unfold escapesPlaced at frontPlaced backPlaced ⊢
      dsimp only at frontPlaced backPlaced ⊢
      have settled :
          (front.getLast?.elim false fun last => decide (last = mark)) = false := by
        cases ends : front.getLast? with
        | none => rfl
        | some last =>
            apply decide_eq_false
            rintro rfl
            exact closed last rfl ends
      rw [escapesOnlyMeta_append, frontPlaced, settled, backPlaced]
      rfl

/-! ## Patterns -/

namespace Pattern

/-- If the events of a pattern are those of two other patterns with the same options, so
are its portions. -/
theorem portions_append
    {whole first second : Pattern}
    (events : whole.events = first.events ++ second.events)
    (firstOptions : first.options = whole.options)
    (secondOptions : second.options = whole.options) :
    whole.portions = first.portions ++ second.portions := by
  obtain ⟨constructs, -, firstEvents⟩ := first.exists_constructs
  obtain ⟨further, -, secondEvents⟩ := second.exists_constructs
  have wholeEvents : whole.events = (constructs ++ further).flatMap Construct.events := by
    rw [events, firstEvents, secondEvents, List.flatMap_append]
  rw [portions_of_events wholeEvents, portions_of_events firstEvents,
    portions_of_events secondEvents, firstOptions, secondOptions, List.map_append]

/-- Two pattern texts in a row make the pattern that matches in a row what they match,
if the first does not end in the escape character and the second is not that character
alone. -/
theorem build_append
    {front back : Text}
    {escape : Option Char}
    {options : Options}
    {first second : Pattern}
    (ordinary : ∀ char, escape = some char → isMeta char = false)
    (firstBuilt : build front escape options = .ok first)
    (secondBuilt : build back escape options = .ok second)
    (closed : ∀ mark, escape = some mark → front.getLast? ≠ some mark)
    (alone : ∀ mark, escape = some mark → back ≠ [mark]) :
    ∃ whole, build (front ++ back) escape options = .ok whole ∧
      whole.events = first.events ++ second.events ∧
      ∀ line, whole.isMatch line = true ↔
        ∃ left right, line = left ++ right ∧ first.isMatch left = true ∧
          second.isMatch right = true := by
  obtain ⟨rfl, rfl, rfl⟩ := build_eq_ok_iff.mp firstBuilt
  obtain ⟨rfl, sameEscape, sameOptions⟩ := build_eq_ok_iff.mp secondBuilt
  have placed : escapesPlaced first.escape (first.text ++ second.text) = true :=
    escapesPlaced_append closed first.placed (sameEscape ▸ second.placed)
  have firstAlone : ∀ mark, first.escape = some mark → first.text ≠ [mark] := by
    intro mark escapes same
    apply closed mark escapes
    rw [same]
    rfl
  have wholeAlone : ∀ mark, first.escape = some mark →
      first.text ++ second.text ≠ [mark] := by
    intro mark escapes same
    rcases List.append_eq_singleton_iff.mp same with ⟨-, last⟩ | ⟨last, -⟩
    · exact alone mark escapes last
    · exact firstAlone mark escapes last
  have reads : events? first.escape (first.text ++ second.text) =
      some (first.events ++ second.events) := by
    have firstReads := first.reads
    have secondReads := second.reads
    rw [sameEscape] at secondReads
    rw [events?_of_not_alone ordinary firstAlone] at firstReads
    rw [events?_of_not_alone ordinary alone] at secondReads
    rw [events?_of_not_alone ordinary wholeAlone, Glyph.ofText_append closed]
    exact Glyph.events?_append firstReads secondReads
  let whole : Pattern := ⟨_, _, first.options, _, placed, reads⟩
  have portions : whole.portions = first.portions ++ second.portions :=
    portions_append rfl rfl sameOptions
  refine ⟨whole, build_eq_ok_iff.mpr ⟨rfl, rfl, rfl⟩, rfl, ?_⟩
  intro line
  simp only [isMatch_iff_accepts]
  rw [portions, Portion.accepts_append]

/-- A set and a run, and after them an escaped star and an escape at the end. -/
theorem build_append_example :
    (∀ char, some '^' = some char → isMeta char = false) ∧
      (∀ mark, some '^' = some mark → "[]^]]*".toList.getLast? ≠ some mark) ∧
      (∀ mark, some '^' = some mark → "^*^".toList ≠ [mark]) ∧
      ∃ first second whole,
        build "[]^]]*".toList (some '^') .none = .ok first ∧
        build "^*^".toList (some '^') .none = .ok second ∧
        build "[]^]]*^*^".toList (some '^') .none = .ok whole ∧
        whole.events = first.events ++ second.events ∧
        ∀ line, whole.isMatch line = true ↔
          ∃ left right, line = left ++ right ∧ first.isMatch left = true ∧
            second.isMatch right = true := by
  have ordinary : ∀ char, some '^' = some char → isMeta char = false := by
    rintro char ⟨rfl⟩
    decide
  have closed : ∀ mark, some '^' = some mark → "[]^]]*".toList.getLast? ≠ some mark := by
    rintro mark ⟨rfl⟩
    decide
  have alone : ∀ mark, some '^' = some mark → "^*^".toList ≠ [mark] := by
    rintro mark -
    simp
  let first : Pattern :=
    ⟨"[]^]]*".toList, some '^', .none,
      [.setOpen, .setMember ']', .setMember ']', .setClose, .star], by decide, by decide⟩
  let second : Pattern :=
    ⟨"^*^".toList, some '^', .none, [.literal '*', .literal '^'], by decide, by decide⟩
  have firstBuilt : build "[]^]]*".toList (some '^') .none = .ok first :=
    build_eq_ok_iff.mpr ⟨rfl, rfl, rfl⟩
  have secondBuilt : build "^*^".toList (some '^') .none = .ok second :=
    build_eq_ok_iff.mpr ⟨rfl, rfl, rfl⟩
  obtain ⟨whole, built, joined⟩ :=
    build_append ordinary firstBuilt secondBuilt closed alone
  exact ⟨ordinary, closed, alone, first, second, whole, firstBuilt, secondBuilt,
    built, joined⟩

end Pattern

end WildcardDiff
