import WildcardDiff.Proofs.Pattern.Escape

/-!
# Texts without wildcards

Whether a text holds a wildcard, what unescaping makes of it, whether its escapes are
well placed, and how it is read as a pattern is found out by four scans, each of which
pairs escapes with characters in its own way. They agree: where a text holds no
wildcard, its glyphs are literals, and where its escapes are well placed, unescaping
leaves the characters of the glyphs.
-/

namespace WildcardDiff

/-! ## Glyphs -/

namespace Glyph

/-- The glyphs of a text without wildcards are literals. -/
theorem isLiteral_of_not_containsWildcards
    {escape : Option Char}
    {text : Text}
    (free : Escape.containsWildcards escape text = false) :
    ∀ glyph ∈ ofText escape text, glyph.isLiteral = true := by
  have ofPlain : ∀ char : Char, isMeta char = false → (plain char).isLiteral = true := by
    intro char ordinary
    have literal := Escape.isLiteral_escaped char
    rwa [ordinary] at literal
  fun_induction ofText escape text with
  | case1 => simp
  | case2 char => simpa using ofPlain char free
  | case3 char next rest escapes inductionHypothesis =>
      rw [Escape.containsWildcards] at free
      split at free
      · cases free
      · rw [List.forall_mem_cons]
        exact ⟨by simp [isLiteral, plain], inductionHypothesis free⟩
  | case4 char next rest unlike inductionHypothesis =>
      rw [Escape.containsWildcards] at free
      split at free
      · cases free
      · rename_i ordinary
        rw [List.forall_mem_cons]
        exact ⟨ofPlain char (Bool.eq_false_iff.mpr ordinary), inductionHypothesis free⟩

end Glyph

/-- What is well placed after an escape is well placed anywhere. -/
theorem escapesOnlyMeta_of_pending
    {mark : Char}
    {text : Text}
    (placed : escapesOnlyMeta mark true text = true) :
    escapesOnlyMeta mark false text = true := by
  cases text with
  | nil => rfl
  | cons char rest =>
      rw [escapesOnlyMeta] at placed ⊢
      split
      · rename_i same
        rwa [if_pos same] at placed
      · rename_i other
        rw [if_neg other, Bool.and_eq_true] at placed
        simpa using placed.2

/-- Without a mark in front of it, a symbol that is no mark stays. -/
theorem Escape.removeMarks_cons_of_not_isMark
    {isMark hasMeaning : α → Bool}
    {symbol : α}
    (other : isMark symbol = false)
    (rest : List α) :
    removeMarks isMark hasMeaning none (symbol :: rest) =
      symbol :: removeMarks isMark hasMeaning none rest := by
  rw [removeMarks, other, if_neg Bool.false_ne_true]
  split <;> rfl

namespace Glyph

/-- Where escapes are well placed, unescaping leaves the characters of the glyphs. -/
theorem map_char_ofText
    {escape : Option Char}
    {text : Text}
    (placed : escapesPlaced escape text = true) :
    (ofText escape text).map char =
      Escape.removeMarks (fun char => escape = some char) isMeta none text := by
  fun_induction ofText escape text with
  | case1 => rfl
  | case2 char => simp [Escape.removeMarks, plain]
  | case3 char next rest escapes inductionHypothesis =>
      subst escapes
      rw [List.map_cons]
      change escapesOnlyMeta char false (char :: next :: rest) = true at placed
      rw [escapesOnlyMeta, if_pos rfl, escapesOnlyMeta] at placed
      by_cases doubled : next = char
      · rw [if_pos doubled] at placed
        rw [inductionHypothesis (escapesOnlyMeta_of_pending placed)]
        simp [Escape.removeMarks, doubled]
      · rw [if_neg doubled, Bool.and_eq_true] at placed
        obtain ⟨meaning, others⟩ := placed
        have special : isMeta next = true := by simpa using meaning
        have single : char ≠ next := fun same => doubled same.symm
        rw [inductionHypothesis others]
        simp [Escape.removeMarks, single, special]
  | case4 char next rest unlike inductionHypothesis =>
      have others : escapesPlaced escape (next :: rest) = true := by
        cases escape with
        | none => rfl
        | some mark =>
            have other : char ≠ mark := fun same => unlike (congrArg some same.symm)
            simpa [escapesPlaced, escapesOnlyMeta, other] using placed
      rw [List.map_cons, inductionHypothesis others]
      symm
      apply Escape.removeMarks_cons_of_not_isMark
      exact decide_eq_false unlike

end Glyph

/-! ## Values -/

namespace Escape

/-- The value that names the escape character: null if there is none. -/
def markValue : Option Char → Value
  | none => .null
  | some mark => .ofText [mark]

theorem removeMarks_map
    (isMark hasMeaning : β → Bool)
    (image : α → β)
    (pending : Option α)
    (symbols : List α) :
    removeMarks isMark hasMeaning (pending.map image) (symbols.map image) =
      (removeMarks (isMark ∘ image) (hasMeaning ∘ image) pending symbols).map image := by
  induction symbols generalizing pending with
  | nil => cases pending <;> rfl
  | cons symbol symbols inductionHypothesis =>
      have dropped := inductionHypothesis none
      have kept := inductionHypothesis (some symbol)
      rw [Option.map_none] at dropped
      rw [Option.map_some] at kept
      cases pending <;>
        simp [removeMarks, dropped, kept, apply_ite (List.map image)]

theorem joinSymbols_chars (text : Text) :
    joinSymbols (text.map fun char => .ofText [char]) = .ok text := by
  have texts : (text.map fun char => Value.ofText [char]).mapM Value.text? =
      some (text.map fun char => String.ofList [char]) := by
    induction text with
    | nil => rfl
    | cons char text inductionHypothesis =>
        rw [List.map_cons, List.mapM_cons, inductionHypothesis]
        rfl
  unfold joinSymbols
  rw [texts]
  simp [List.flatMap_map]

/-- Unescaping a text takes its marks away, of which there are none without an escape
character. -/
theorem unescapeValue_ofText (escape : Option Char) (text : Text) :
    unescapeValue (markValue escape) (.ofText text) =
      .ok (removeMarks (fun char => escape = some char) isMeta none text) := by
  have marks : (fun symbol : Value => symbol.same (markValue escape)) ∘
      (fun char => Value.ofText [char]) = fun char => decide (escape = some char) := by
    funext char
    cases escape with
    | none => simp [markValue, Value.ofText, Value.same, Value.integer?]
    | some mark => simp [markValue, Value.ofText, Value.same, eq_comm (a := char)]
  have special : isMetaSymbol ∘ (fun char => Value.ofText [char]) = isMeta := by
    funext char
    simp [isMetaSymbol, Value.ofText, Value.text?]
  have removed :=
    removeMarks_map (fun symbol => symbol.same (markValue escape)) isMetaSymbol
    (fun char => Value.ofText [char]) none text
  rw [marks, special, Option.map_none] at removed
  have symbols : symbolsOfValue (.ofText text) =
      .ok (text.map fun char => .ofText [char]) := by
    simp [symbolsOfValue, Value.ofText]
  unfold unescapeValue
  rw [symbols]
  change joinSymbols (removeMarks _ _ _ _) = _
  rw [removed, joinSymbols_chars]

end Escape

/-! ## Patterns -/

/-- A text other than the escape character alone is read as its glyphs are; without an
escape character there is no such exception. -/
theorem events?_of_not_alone
    {escape : Option Char}
    {text : Text}
    (ordinary : ∀ char, escape = some char → isMeta char = false)
    (alone : ∀ mark, escape = some mark → text ≠ [mark]) :
    events? escape text = Glyph.events? (Glyph.ofText escape text) := by
  by_cases same : text = escape.toList
  · cases escape with
    | none =>
        obtain rfl : text = [] := same
        rw [Glyph.ofText, Glyph.events?, Glyph.constructs?]
        rfl
    | some mark => exact absurd same (alone mark rfl)
  · exact events?_of_ne ordinary same

/-- A pattern whose text holds no wildcard, and in which letter case counts, consists of
literals, and matches the unescaped text and nothing else. -/
theorem Pattern.isMatch_iff_unescape
    {text : Text}
    {escape : Option Char}
    {options : Options}
    {pattern : Pattern}
    (ordinary : ∀ char, escape = some char → isMeta char = false)
    (alone : ∀ mark, escape = some mark → text ≠ [mark])
    (built : build text escape options = .ok pattern)
    (caseful : options.ignoreCase = false)
    (free : Escape.containsWildcards escape text = false) :
    (∀ event ∈ pattern.events, ∃ char, event = .literal char) ∧
      ∀ line, pattern.isMatch line = true ↔
        Escape.unescapeValue (Escape.markValue escape) (.ofText text) = .ok line := by
  obtain ⟨rfl, rfl, rfl⟩ := build_eq_ok_iff.mp built
  have literal := Glyph.isLiteral_of_not_containsWildcards free
  have chars := Glyph.map_char_ofText pattern.placed
  have events : pattern.events = (((Glyph.ofText pattern.escape pattern.text).map
      Glyph.char).map Construct.literal).flatMap Construct.events := by
    have reads := pattern.reads
    rw [events?_of_not_alone ordinary alone, Glyph.events?,
      Glyph.constructs?_of_isLiteral literal] at reads
    exact (Construct.eventsOf?_eq_some_iff.mp reads).2
  constructor
  · intro event present
    rw [events] at present
    simp only [List.flatMap_map, List.mem_flatMap, Construct.events, List.mem_singleton]
      at present
    obtain ⟨glyph, -, rfl⟩ := present
    exact ⟨glyph.char, rfl⟩
  · intro line
    have folding := Options.folding_eq_exact caseful
    rw [isMatch_iff_accepts, portions_of_events events,
      Construct.accepts_literals_of_exact folding, chars, Escape.unescapeValue_ofText,
      Except.ok.injEq]
    exact eq_comm

/-- An escaped star, a doubled escape, and one more at the end. -/
theorem Pattern.isMatch_iff_unescape_example :
    (∀ char, some '\\' = some char → isMeta char = false) ∧
      (∀ mark, some '\\' = some mark → "a\\*\\\\\\".toList ≠ [mark]) ∧
      (⟨5⟩ : Options).ignoreCase = false ∧
      Escape.containsWildcards (some '\\') "a\\*\\\\\\".toList = false ∧
      ∃ pattern, build "a\\*\\\\\\".toList (some '\\') ⟨5⟩ = .ok pattern ∧
        (∀ event ∈ pattern.events, ∃ char, event = .literal char) ∧
        ∀ line, pattern.isMatch line = true ↔ line = "a*\\\\".toList := by
  have ordinary : ∀ char, some '\\' = some char → isMeta char = false := by
    rintro char ⟨rfl⟩
    decide
  have alone : ∀ mark, some '\\' = some mark → "a\\*\\\\\\".toList ≠ [mark] := by
    rintro mark -
    simp
  have caseful : (⟨5⟩ : Options).ignoreCase = false := by decide
  have free : Escape.containsWildcards (some '\\') "a\\*\\\\\\".toList =
    false := by decide
  let pattern : Pattern :=
    ⟨"a\\*\\\\\\".toList, some '\\', ⟨5⟩, "a*\\\\".toList.map .literal, by
      decide, by decide⟩
  have built : build "a\\*\\\\\\".toList (some '\\') ⟨5⟩ = .ok pattern :=
    build_eq_ok_iff.mpr ⟨rfl, rfl, rfl⟩
  obtain ⟨literal, only⟩ := isMatch_iff_unescape ordinary alone built caseful free
  have unescaped : Escape.unescapeValue (Escape.markValue (some '\\'))
      (.ofText "a\\*\\\\\\".toList) = .ok "a*\\\\".toList := by
    rw [Escape.unescapeValue_ofText]
    decide
  refine ⟨ordinary, alone, caseful, free, pattern, built, literal, ?_⟩
  intro line
  rw [only, unescaped, Except.ok.injEq]
  exact eq_comm

end WildcardDiff
