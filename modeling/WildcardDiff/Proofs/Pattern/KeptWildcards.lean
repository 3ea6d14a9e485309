import WildcardDiff.Proofs.Pattern.Escape

/-!
# Escaping all but some wildcards

A text can be escaped in part, with some of its stars and question marks kept. Each
character of such a text becomes one glyph: those that are escaped are quoted, and all
others stand for themselves, since the text holds no mark that could join what follows
it. No bracket is left unquoted, so that no set opens. The pattern therefore takes the
kept characters as wildcards and all others literally.
-/

namespace WildcardDiff
namespace Escape

/-! ## What a text stands for -/

/-- Whether a line is what a text stands for when the characters to keep are wildcards:
a question mark among them stands for any character, a star for any run, and every other
character of the text for itself. -/
inductive StandsFor (keep : Text) : (text line : Text) → Prop
  | nil : StandsFor keep [] []
  | literal {char : Char} {text line : Text} :
      char ∉ keep → StandsFor keep text line →
      StandsFor keep (char :: text) (char :: line)
  | question {given : Char} {text line : Text} :
      '?' ∈ keep → StandsFor keep text line → StandsFor keep ('?' :: text) (given :: line)
  | star {text line : Text} (taken : Text) :
      '*' ∈ keep → StandsFor keep text line → StandsFor keep ('*' :: text) (taken ++ line)

namespace StandsFor

variable {keep text line : Text}

theorem nil_iff : StandsFor keep [] line ↔ line = [] := by
  constructor
  · intro stands
    cases stands
    rfl
  · rintro rfl
    exact .nil

theorem literal_cons_iff {char : Char} (other : char ∉ keep) :
    StandsFor keep (char :: text) line ↔
      ∃ rest, line = char :: rest ∧ StandsFor keep text rest := by
  constructor
  · intro stands
    cases stands with
    | literal _ following => exact ⟨_, rfl, following⟩
    | question kept _ => exact absurd kept other
    | star _ kept _ => exact absurd kept other
  · rintro ⟨rest, rfl, following⟩
    exact .literal other following

theorem question_cons_iff (kept : '?' ∈ keep) :
    StandsFor keep ('?' :: text) line ↔
      ∃ given rest, line = given :: rest ∧ StandsFor keep text rest := by
  constructor
  · intro stands
    cases stands with
    | literal other _ => exact absurd kept other
    | question _ following => exact ⟨_, _, rfl, following⟩
  · rintro ⟨given, rest, rfl, following⟩
    exact .question kept following

theorem star_cons_iff (kept : '*' ∈ keep) :
    StandsFor keep ('*' :: text) line ↔
      ∃ taken rest, line = taken ++ rest ∧ StandsFor keep text rest := by
  constructor
  · intro stands
    cases stands with
    | literal other _ => exact absurd kept other
    | star taken _ following => exact ⟨taken, _, rfl, following⟩
  · rintro ⟨taken, rest, rfl, following⟩
    exact .star taken kept following

end StandsFor

/-! ## How the escaped text is read -/

/-- The glyph that a character becomes. -/
def glyph (keep : Text) (char : Char) : Glyph :=
  ⟨char, isMeta char && !keep.contains char⟩

/-- The construct that a character becomes. -/
def construct (keep : Text) (char : Char) : Construct :=
  if char ∉ keep then .literal char
  else if char = '*' then .star
  else .question

variable {keep text line : Text} {mark : Char} {options : Options}

theorem eq_star_or_question
    (wild : keep ⊆ ['*', '?'])
    {char : Char}
    (kept : char ∈ keep) :
    char = '*' ∨ char = '?' := by
  simpa using wild kept

/-- A glyph of a character that is not kept is a literal. -/
theorem isLiteral_glyph {char : Char} (other : char ∉ keep) :
    (glyph keep char).isLiteral = true := by
  have same : glyph keep char = ⟨char, isMeta char⟩ := by simp [glyph, other]
  rw [same]
  exact isLiteral_escaped char

theorem glyph_of_kept
    {char : Char}
    (kept : char ∈ keep) :
    glyph keep char = .plain char := by
  simp [glyph, kept, Glyph.plain]

/-- Escaping a text that has no mark makes one glyph of each character. -/
theorem ofText_escape_keep (absent : mark ∉ text) :
    Glyph.ofText (some mark) (escape mark keep text) = text.map (glyph keep) := by
  induction text with
  | nil => rfl
  | cons char text inductionHypothesis =>
      rw [List.mem_cons, not_or] at absent
      rw [escape_keep_cons, List.map_cons, ← inductionHypothesis absent.2]
      split
      · rename_i escaped
        rw [Glyph.ofText, if_pos rfl, glyph, escaped]
      · rename_i unescaped
        rw [Glyph.ofText_cons_of_ne fun same => absent.1 (Option.some.inj same), glyph,
          Bool.eq_false_iff.mpr unescaped]
        rfl

/-- Each glyph becomes one construct. -/
theorem constructs?_glyphs (wild : keep ⊆ ['*', '?']) (text : Text) :
    Glyph.constructs? (text.map (glyph keep)) = some (text.map (construct keep)) := by
  induction text with
  | nil =>
      rw [List.map_nil, Glyph.constructs?]
      rfl
  | cons char text inductionHypothesis =>
      rw [List.map_cons, List.map_cons, Glyph.constructs?, construct]
      by_cases kept : char ∈ keep
      · rw [if_neg (not_not_intro kept), glyph_of_kept kept, inductionHypothesis]
        rcases eq_star_or_question wild kept with rfl | rfl
        · rw [if_pos rfl, if_pos rfl]
          rfl
        · rw [if_neg (by decide), if_pos rfl, if_neg (by decide)]
          rfl
      · obtain ⟨star, question, opening⟩ := of_decide_eq_true (isLiteral_glyph kept)
        rw [if_pos kept, if_neg star, if_neg question, if_neg opening,
          inductionHypothesis]
        rfl

theorem isOrdered_construct (keep : Text) (char : Char) :
    (construct keep char).isOrdered = true := by
  unfold construct
  split
  · rfl
  · split <;> rfl

theorem escape_keep_ne_mark (absent : mark ∉ text) : escape mark keep text ≠ [mark] := by
  cases text with
  | nil => exact List.cons_ne_nil _ _ ∘ Eq.symm
  | cons char text =>
      rw [List.mem_cons, not_or] at absent
      rw [escape_keep_cons]
      split
      · simp
      · intro same
        exact absent.1 (List.head_eq_of_cons_eq same).symm

/-- An escaped text that has no mark is read as the constructs of its characters. -/
theorem events?_escape_keep
    (neutral : isMeta mark = false)
    (wild : keep ⊆ ['*', '?'])
    (absent : mark ∉ text) :
    events? (some mark) (escape mark keep text) =
      some ((text.map (construct keep)).flatMap Construct.events) := by
  have unlike : escape mark keep text ≠ (some mark).toList := escape_keep_ne_mark absent
  rw [events?_of_ne (ordinary_of_neutral neutral) unlike, ofText_escape_keep absent,
    Glyph.events?, constructs?_glyphs wild]
  refine Construct.eventsOf?_eq_some_iff.mpr ⟨?_, rfl⟩
  rw [List.forall_mem_map]
  exact fun char _ => isOrdered_construct keep char

/-- The marks of an escaped text stand before characters with a meaning of their own. -/
theorem escapesOnlyMeta_escape_keep (absent : mark ∉ text) :
    escapesOnlyMeta mark false (escape mark keep text) = true := by
  induction text with
  | nil => rfl
  | cons char text inductionHypothesis =>
      rw [List.mem_cons, not_or] at absent
      have other : char ≠ mark := fun same => absent.1 same.symm
      rw [escape_keep_cons]
      split
      · rename_i escaped
        rw [Bool.and_eq_true] at escaped
        simp [escapesOnlyMeta, other, escaped.1, inductionHypothesis absent.2]
      · simp [escapesOnlyMeta, other, inductionHypothesis absent.2]

/-! ## What the pattern matches -/

/-- The portions of the constructs accept what the text stands for. -/
theorem accepts_constructs_iff
    (wild : keep ⊆ ['*', '?'])
    (keepsCase : options.folding = .exact) :
    Portion.Accepts ((text.map (construct keep)).map
      (Construct.charPortion options)) line ↔
      StandsFor keep text line := by
  induction text generalizing line with
  | nil => rw [List.map_nil, List.map_nil, Portion.accepts_nil, StandsFor.nil_iff]
  | cons char text inductionHypothesis =>
      rw [List.map_cons, List.map_cons, construct]
      by_cases kept : char ∈ keep
      · rw [if_neg (not_not_intro kept)]
        rcases eq_star_or_question wild kept with rfl | rfl
        · rw [if_pos rfl, StandsFor.star_cons_iff kept]
          simp only [← inductionHypothesis]
          exact Portion.accepts_run_cons
        · rw [if_neg (by decide), StandsFor.question_cons_iff kept]
          simp only [← inductionHypothesis]
          refine Portion.accepts_one_cons.trans ?_
          constructor
          · rintro ⟨given, rest, rfl, -, following⟩
            exact ⟨given, rest, rfl, following⟩
          · rintro ⟨given, rest, rfl, following⟩
            exact ⟨given, rest, rfl, rfl, following⟩
      · rw [if_pos kept, Construct.charPortion_literal keepsCase,
          Portion.accepts_one_cons, StandsFor.literal_cons_iff kept]
        simp only [inductionHypothesis, decide_eq_true_eq]
        constructor
        · rintro ⟨_, rest, rfl, rfl, following⟩
          exact ⟨rest, rfl, following⟩
        · rintro ⟨rest, rfl, following⟩
          exact ⟨char, rest, rfl, rfl, following⟩

/-- A text without the mark, escaped but for some of its stars and question marks,
becomes a pattern whatever the options. If letter case counts, the pattern matches
exactly the lines that the text stands for when the kept characters are wildcards and
all others, brackets included, are literals. -/
theorem isMatch_escape_keep_iff
    (mark : Char)
    (neutral : isMeta mark = false)
    (keep : Text)
    (wild : keep ⊆ ['*', '?'])
    (text : Text)
    (absent : mark ∉ text)
    (options : Options)
    (caseful : options.ignoreCase = false) :
    ∃ pattern, Pattern.build (escape mark keep text) (some mark) options = .ok pattern ∧
      ∀ line, pattern.isMatch line = true ↔ StandsFor keep text line := by
  have placed : escapesPlaced (some mark) (escape mark keep text) = true :=
    escapesOnlyMeta_escape_keep absent
  have reads := events?_escape_keep neutral wild absent
  refine ⟨⟨_, _, options, _, placed, reads⟩,
    Pattern.build_eq_ok_iff.mpr ⟨rfl, rfl, rfl⟩, ?_⟩
  intro line
  rw [Pattern.isMatch_iff_accepts, Pattern.portions_of_events rfl]
  exact accepts_constructs_iff wild (Options.folding_eq_exact caseful)

/-- Stars are kept, while a set, a question mark and the dash of a range are not. -/
theorem isMatch_escape_keep_iff_stars :
    isMeta '^' = false ∧ ['*'] ⊆ ['*', '?'] ∧ '^' ∉ "[a-c]*?".toList ∧
      (⟨4⟩ : Options).ignoreCase = false ∧
      ∃ pattern, Pattern.build "^[a-c^]*^?".toList (some '^') ⟨4⟩ = .ok pattern ∧
        pattern.isMatch "[a-c]xyz?".toList = true ∧
        pattern.isMatch "bxyz?".toList = false := by
  have neutral : isMeta '^' = false := rfl
  have wild : ['*'] ⊆ ['*', '?'] := by decide
  have absent : '^' ∉ "[a-c]*?".toList := by decide
  have caseful : (⟨4⟩ : Options).ignoreCase = false := rfl
  obtain ⟨pattern, built, stands⟩ :=
    isMatch_escape_keep_iff '^' neutral ['*'] wild "[a-c]*?".toList absent ⟨4⟩ caseful
  refine ⟨neutral, wild, absent, caseful, pattern, built, ?_, ?_⟩
  · rw [stands]
    have last : StandsFor ['*'] ['*', '?'] "xyz?".toList :=
      .star ['x', 'y', 'z'] (by decide) (.literal (by decide) .nil)
    exact .literal (by decide) (.literal (by decide) (.literal (by decide)
      (.literal (by decide) (.literal (by decide) last))))
  · rw [Bool.eq_false_iff]
    intro matched
    rw [stands] at matched
    cases matched

end Escape
end WildcardDiff
