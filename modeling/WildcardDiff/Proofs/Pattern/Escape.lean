import WildcardDiff.Pattern.Escape
import WildcardDiff.Proofs.Pattern.Elements
import WildcardDiff.Proofs.Pattern.Glyph
import Mathlib.Data.List.Chain

/-!
# Escaped texts as patterns

Escaping marks the characters that have a meaning of their own, and leaves the mark
itself as it is. A mark that is already in the text therefore joins the character after
it when the escaped text is read. This does no harm at the end of the text, or before a
closing bracket, whose own mark is then the one that is quoted. Everywhere else the
escaped text is refused, or matches something else than the text.
-/

namespace WildcardDiff

/-! ## Samples -/

/-- The first character that a choice offers. -/
def Choice.first : Choice → Char
  | .one char => char
  | .range low _ => low

/-- A piece of a text that a construct takes. The filler is what it takes for any
character. -/
def Construct.sample (filler : Char) : Construct → Text
  | .literal char => [char]
  | .star => []
  | .question => [filler]
  | .set choices => choices.head?.toList.map Choice.first

theorem Choice.holds_first {choice : Choice} (ordered : choice.isOrdered = true) :
    choice.holds [choice.first] = true := by
  cases choice with
  | one char => simp [holds, first]
  | range low high =>
      have order : low ≤ high := of_decide_eq_true ordered
      simp [holds, first, order]

namespace Construct

theorem length_sample_le (filler : Char) (construct : Construct) :
    (construct.sample filler).length ≤ 1 := by
  cases construct with
  | set choices => cases choices <;> simp [sample]
  | _ => simp [sample]

theorem takes_sample
    {construct : Construct}
    (wellFormed : construct.WellFormed)
    (options : Options)
    (filler : Char) :
    (construct.charPortion options).Takes (construct.sample filler) := by
  rw [charPortion, Element.takes_charPortion_iff]
  cases construct with
  | literal char => exact ⟨char, rfl, rfl⟩
  | star => trivial
  | question => exact ⟨filler, rfl⟩
  | set choices =>
      obtain ⟨inhabited, ordered⟩ := wellFormed
      cases choices with
      | nil => exact absurd rfl inhabited
      | cons choice choices =>
          have firstOrdered : choice.isOrdered = true :=
            List.all_eq_true.mp ordered choice List.mem_cons_self
          have held : (charSet options.ignoreCase (choice :: choices)).holds
              [choice.first] :=
            by rw [holds_charSet, List.any_cons, Choice.holds_first firstOrdered,
              Bool.true_or]
          have form : [choice.first] ∈
              (charSet options.ignoreCase (choice :: choices)).forms [choice.first] := by
            unfold CharSet.forms
            split <;> simp
          exact ⟨choice.first, rfl, List.any_eq_true.mpr ⟨_, form, held⟩⟩

/-- Well-formed constructs accept a sample of each of them. -/
theorem accepts_samples
    {constructs : List Construct}
    (wellFormed : ∀ construct ∈ constructs, construct.WellFormed)
    (options : Options)
    (filler : Char) :
    Portion.Accepts (constructs.map (charPortion options))
      (constructs.flatMap (sample filler)) := by
  rw [Portion.accepts_iff_pieces]
  refine ⟨constructs.map (sample filler), rfl, ?_⟩
  rw [List.forall₂_map_left_iff, List.forall₂_map_right_iff, List.forall₂_same]
  intro construct present
  exact takes_sample (wellFormed construct present) options filler

/-- Samples leave nothing for a run, whatever single portions the other constructs are. -/
theorem length_samples_le
    {portion : Construct → Portion Char}
    (isOne : ∀ construct, construct ≠ .star → (portion construct).isOne = true)
    (constructs : List Construct)
    (filler : Char) :
    (constructs.flatMap (sample filler)).length ≤
      (constructs.map portion).countP Portion.isOne := by
  induction constructs with
  | nil => exact Nat.le_refl 0
  | cons construct constructs inductionHypothesis =>
      rw [List.flatMap_cons, List.length_append, List.map_cons]
      by_cases run : construct = .star
      · rw [run]
        refine Nat.le_trans ?_ (List.sublist_cons_self _ _).countP_le
        simpa [sample] using inductionHypothesis
      · have short := length_sample_le filler construct
        rw [List.countP_cons_of_pos (isOne construct run)]
        omega

theorem charPortion_literal
    {options : Options}
    (keepsCase : options.folding = .exact)
    (char : Char) :
    charPortion options (.literal char) = .one fun given => decide (given = char) := by
  change Portion.one _ = Portion.one _
  congr 1
  funext given
  simp [Element.takes, Folding.symbol, keepsCase, Folding.apply, eq_comm]

/-- Where letter case counts, literals accept exactly their characters. -/
theorem accepts_literals_of_exact
    {options : Options}
    (keepsCase : options.folding = .exact)
    {text line : Text} :
    Portion.Accepts ((text.map literal).map (charPortion options)) line ↔
      line = text := by
  induction text generalizing line with
  | nil => simp
  | cons char text inductionHypothesis =>
      rw [List.map_cons, List.map_cons, charPortion_literal keepsCase,
        Portion.accepts_one_cons]
      simp only [inductionHypothesis, decide_eq_true_eq]
      constructor
      · rintro ⟨_, _, rfl, rfl, rfl⟩
        rfl
      · rintro rfl
        exact ⟨char, text, rfl, rfl, rfl⟩

theorem accepts_literals {text line : Text} :
    Portion.Accepts ((text.map literal).map (charPortion .none)) line ↔ line = text :=
  accepts_literals_of_exact rfl

end Construct

/-! ## Samples of glyphs -/

namespace Glyph

theorem ofText_cons_of_ne
    {escape : Option Char}
    {char : Char}
    (plain : escape ≠ some char)
    (text : Text) :
    ofText escape (char :: text) = .plain char :: ofText escape text := by
  cases text with
  | nil => rfl
  | cons next rest => rw [ofText, if_neg plain]

/-- Whether a glyph outside of sets stands for its character. -/
def isLiteral (glyph : Glyph) : Bool :=
  glyph ≠ plain '*' ∧ glyph ≠ plain '?' ∧ glyph ≠ plain '['

theorem constructs?_of_isLiteral
    {glyphs : List Glyph}
    (literal : ∀ glyph ∈ glyphs, glyph.isLiteral = true) :
    constructs? glyphs = some ((glyphs.map Glyph.char).map Construct.literal) := by
  induction glyphs with
  | nil => rw [constructs?]; rfl
  | cons glyph glyphs inductionHypothesis =>
      obtain ⟨own, others⟩ := List.forall_mem_cons.mp literal
      obtain ⟨star, question, opening⟩ := of_decide_eq_true own
      rw [constructs?, if_neg star, if_neg question, if_neg opening,
        inductionHypothesis others]
      rfl

theorem ne_nil_of_set?
    {glyphs members following : List Glyph}
    (found : set? glyphs = some (members, following)) :
    members ≠ [] := by
  cases glyphs with
  | nil => cases found
  | cons first rest =>
      rw [set?] at found
      split at found
      · cases found
      · obtain ⟨rfl, -⟩ := Prod.mk.inj (Option.some.inj found)
        exact List.cons_ne_nil _ _

/-- How constructs come from glyphs: one from each glyph, except that a set takes
several. -/
inductive Spells : List Construct → List Glyph → Prop
  | nil : Spells [] []
  | literal {glyph : Glyph} {constructs : List Construct} {glyphs : List Glyph} :
      glyph.isLiteral = true → Spells constructs glyphs →
      Spells (.literal glyph.char :: constructs) (glyph :: glyphs)
  | star {constructs : List Construct} {glyphs : List Glyph} :
      Spells constructs glyphs → Spells (.star :: constructs) (plain '*' :: glyphs)
  | question {constructs : List Construct} {glyphs : List Glyph} :
      Spells constructs glyphs → Spells (.question :: constructs) (plain '?' :: glyphs)
  | set {choices : List Choice} {constructs : List Construct}
      {glyphs following : List Glyph} :
      choices ≠ [] → following.length + 1 < glyphs.length → Spells constructs following →
      Spells (.set choices :: constructs) glyphs

theorem spells_constructs?
    {glyphs : List Glyph}
    {constructs : List Construct}
    (grouped : constructs? glyphs = some constructs) :
    Spells constructs glyphs := by
  fun_induction constructs? glyphs generalizing constructs with
  | case1 =>
      obtain rfl := Option.some.inj grouped
      exact .nil
  | case2 rest inductionHypothesis =>
      obtain ⟨others, following, rfl⟩ := Option.map_eq_some_iff.mp grouped
      exact .star (inductionHypothesis following)
  | case3 rest isStar inductionHypothesis =>
      obtain ⟨others, following, rfl⟩ := Option.map_eq_some_iff.mp grouped
      exact .question (inductionHypothesis following)
  | case4 rest members following found isStar isQuestion inductionHypothesis =>
      obtain ⟨others, remaining, rfl⟩ := Option.map_eq_some_iff.mp grouped
      have inhabited : members.map member ≠ [] := by simpa using ne_nil_of_set? found
      exact .set (Member.choices_ne_nil inhabited)
        (Nat.succ_lt_succ (length_set?_lt found)) (inductionHypothesis remaining)
  | case5 rest found isStar isQuestion => cases grouped
  | case6 glyph rest isStar isQuestion opens inductionHypothesis =>
      obtain ⟨others, following, rfl⟩ := Option.map_eq_some_iff.mp grouped
      have literal : glyph.isLiteral = true :=
        decide_eq_true ⟨isStar, isQuestion, opens⟩
      exact .literal literal (inductionHypothesis following)

namespace Spells

variable {constructs : List Construct} {glyphs : List Glyph}

/-- Every set has a choice. -/
theorem ne_set_nil (spells : Spells constructs glyphs) :
    ∀ construct ∈ constructs, construct ≠ .set [] := by
  induction spells with
  | nil => simp
  | literal _ _ inductionHypothesis => simpa using inductionHypothesis
  | star _ inductionHypothesis => simpa using inductionHypothesis
  | question _ inductionHypothesis => simpa using inductionHypothesis
  | set inhabited _ _ inductionHypothesis => simpa [inhabited] using inductionHypothesis

/-- Samples are at most as long as the glyphs. -/
theorem length_samples_le (spells : Spells constructs glyphs) (filler : Char) :
    (constructs.flatMap (Construct.sample filler)).length ≤ glyphs.length := by
  induction spells with
  | nil => simp
  | literal _ _ inductionHypothesis => simpa [Construct.sample] using inductionHypothesis
  | star _ inductionHypothesis =>
      simpa [Construct.sample] using Nat.le_succ_of_le inductionHypothesis
  | question _ inductionHypothesis => simpa [Construct.sample] using inductionHypothesis
  | @set choices constructs glyphs following _ longer _ inductionHypothesis =>
      have short := Construct.length_sample_le filler (.set choices)
      rw [List.flatMap_cons, List.length_append]
      omega

/-- If samples with different fillers are the same, and as long as the glyphs, then all
glyphs are literals: a run and a set are shorter than their glyphs, and `?` shows the
filler. -/
theorem isLiteral_of_samples
    (spells : Spells constructs glyphs)
    {filler other : Char}
    (distinct : filler ≠ other)
    (same : constructs.flatMap (Construct.sample filler) =
      constructs.flatMap (Construct.sample other))
    (full : glyphs.length ≤ (constructs.flatMap (Construct.sample filler)).length) :
    ∀ glyph ∈ glyphs, glyph.isLiteral = true := by
  induction spells with
  | nil => simp
  | literal literal _ inductionHypothesis =>
      rw [List.forall_mem_cons]
      refine ⟨literal, inductionHypothesis (List.tail_eq_of_cons_eq same) ?_⟩
      exact Nat.le_of_succ_le_succ full
  | star spells =>
      have short := spells.length_samples_le filler
      rw [List.flatMap_cons, List.length_append, List.length_cons] at full
      simp only [Construct.sample, List.length_nil] at full
      omega
  | question => exact absurd (List.head_eq_of_cons_eq same) distinct
  | @set choices constructs glyphs following _ longer spells =>
      have short := spells.length_samples_le filler
      have single := Construct.length_sample_le filler (.set choices)
      rw [List.flatMap_cons, List.length_append] at full
      omega

end Spells

end Glyph

/-! ## The glyphs of an escaped text -/

namespace Glyph

/-- The glyphs of a text that was escaped. A mark in the text quotes the character that
comes next, which is the mark of a character with a meaning of its own. -/
def ofEscaped (mark : Char) : Text → List Glyph
  | [] => []
  | [char] => [⟨char, isMeta char⟩]
  | char :: next :: rest =>
      if char = mark then
        if isMeta next then ⟨mark, true⟩ :: plain next :: ofEscaped mark rest
        else ⟨next, true⟩ :: ofEscaped mark rest
      else ⟨char, isMeta char⟩ :: ofEscaped mark (next :: rest)

end Glyph

namespace Escape

variable {mark : Char} {text : Text}

theorem escape_keep_cons (mark : Char) (keep : Text) (char : Char) (text : Text) :
    escape mark keep (char :: text) =
      if isMeta char && !keep.contains char then mark :: char :: escape mark keep text
      else char :: escape mark keep text := by
  unfold escape insertMarks
  rw [List.flatMap_cons]
  split <;> rfl

theorem escape_cons (mark char : Char) (text : Text) :
    escape mark [] (char :: text) =
      if isMeta char then mark :: char :: escape mark [] text
      else char :: escape mark [] text := by
  simpa using escape_keep_cons mark [] char text

theorem ne_of_isMeta
    {char : Char}
    (neutral : isMeta mark = false)
    (meaning : isMeta char = true) :
    char ≠ mark := by
  rintro rfl
  rw [neutral] at meaning
  cases meaning

theorem ofText_escape (neutral : isMeta mark = false) (text : Text) :
    Glyph.ofText (some mark) (escape mark [] text) = Glyph.ofEscaped mark text := by
  fun_induction Glyph.ofEscaped mark text with
  | case1 => rfl
  | case2 char =>
      cases meaning : isMeta char <;>
        simp [escape, insertMarks, meaning, Glyph.ofText, Glyph.plain]
  | case3 next rest meaning inductionHypothesis =>
      have other : some mark ≠ some next := fun same =>
        ne_of_isMeta neutral meaning (Option.some.inj same).symm
      rw [escape_cons, escape_cons, if_neg (by simp [neutral]), if_pos meaning,
        Glyph.ofText, if_pos rfl, Glyph.ofText_cons_of_ne other, inductionHypothesis]
  | case4 next rest ordinary inductionHypothesis =>
      rw [escape_cons, escape_cons, if_neg (by simp [neutral]), if_neg ordinary,
        Glyph.ofText, if_pos rfl, inductionHypothesis]
  | case5 char next rest other inductionHypothesis =>
      rw [escape_cons]
      cases meaning : isMeta char with
      | true => rw [if_pos rfl, Glyph.ofText, if_pos rfl, inductionHypothesis]
      | false =>
          have unmarked : some mark ≠ some char :=
            fun same => other (Option.some.inj same).symm
          rw [if_neg Bool.false_ne_true, Glyph.ofText_cons_of_ne unmarked,
            inductionHypothesis]
          rfl

theorem escape_eq_mark_iff (neutral : isMeta mark = false) :
    escape mark [] text = [mark] ↔ text = [mark] := by
  constructor
  · intro same
    cases text with
    | nil => cases same
    | cons char rest =>
        rw [escape_cons] at same
        split at same
        · simp at same
        · obtain ⟨rfl, nothing⟩ := List.cons.inj same
          cases rest with
          | nil => rfl
          | cons next rest =>
              rw [escape_cons] at nothing
              split at nothing <;> cases nothing
  · rintro rfl
    rw [escape_cons, if_neg (by simp [neutral])]
    rfl

theorem length_ofEscaped_le (mark : Char) (text : Text) :
    (Glyph.ofEscaped mark text).length ≤ text.length := by
  fun_induction Glyph.ofEscaped mark text with
  | case1 => simp
  | case2 char => simp
  | case3 next rest meaning inductionHypothesis => simpa using inductionHypothesis
  | case4 next rest ordinary inductionHypothesis =>
      exact Nat.succ_le_succ (Nat.le_succ_of_le inductionHypothesis)
  | case5 char next rest other inductionHypothesis =>
      exact Nat.succ_le_succ inductionHypothesis

theorem isChain_cons_of_ne
    {char : Char}
    (other : char ≠ mark)
    (chain : text.IsChain fun char next => char = mark → next = ']') :
    (char :: text).IsChain fun char next => char = mark → next = ']' :=
  List.isChain_cons.mpr ⟨fun _ _ same => absurd same other, chain⟩

/-- If the glyphs of an escaped text are literals, and as many as the text has
characters, then every mark of the text stands before a closing bracket or at the
end. -/
theorem isChain_of_isLiteral
    (neutral : isMeta mark = false)
    (literal : ∀ glyph ∈ Glyph.ofEscaped mark text, glyph.isLiteral = true)
    (full : text.length ≤ (Glyph.ofEscaped mark text).length) :
    text.IsChain fun char next => char = mark → next = ']' := by
  fun_induction Glyph.ofEscaped mark text with
  | case1 => exact .nil
  | case2 char => exact .singleton char
  | case3 next rest meaning inductionHypothesis =>
      simp only [List.forall_mem_cons] at literal
      obtain ⟨-, following, others⟩ := literal
      have chain := inductionHypothesis others (by simpa using full)
      have closing : next = ']' := by
        simp [Glyph.isLiteral, Glyph.plain_inj] at following
        simpa [isMeta, following] using meaning
      refine List.isChain_cons_cons.mpr ⟨fun _ => closing, ?_⟩
      exact isChain_cons_of_ne (ne_of_isMeta neutral meaning) chain
  | case4 next rest ordinary inductionHypothesis =>
      have bound := length_ofEscaped_le mark rest
      simp only [List.length_cons] at full
      omega
  | case5 char next rest other inductionHypothesis =>
      rw [List.forall_mem_cons] at literal
      exact isChain_cons_of_ne other
        (inductionHypothesis literal.2 (Nat.le_of_succ_le_succ full))

theorem isLiteral_escaped (char : Char) :
    (Glyph.mk char (isMeta char)).isLiteral = true := by
  by_cases meaning : isMeta char = true
  · simp [Glyph.isLiteral, Glyph.plain, meaning]
  · simp [isMeta] at meaning
    simp [Glyph.isLiteral, Glyph.plain, meaning]

/-- Where every mark of a text stands before a closing bracket or at the end, the glyphs
of the escaped text are literals of the characters of the text. -/
theorem isLiteral_of_isChain
    (chain : text.IsChain fun char next => char = mark → next = ']') :
    (∀ glyph ∈ Glyph.ofEscaped mark text, glyph.isLiteral = true) ∧
      (Glyph.ofEscaped mark text).map Glyph.char = text := by
  fun_induction Glyph.ofEscaped mark text with
  | case1 => simp
  | case2 char => simp [isLiteral_escaped]
  | case3 next rest meaning inductionHypothesis =>
      obtain ⟨closes, following⟩ := List.isChain_cons_cons.mp chain
      obtain rfl := closes rfl
      obtain ⟨others, chars⟩ := inductionHypothesis following.tail
      refine ⟨?_, by simpa [Glyph.plain] using chars⟩
      simp only [List.forall_mem_cons]
      exact ⟨by simp [Glyph.isLiteral, Glyph.plain], by decide, others⟩
  | case4 next rest ordinary inductionHypothesis =>
      obtain ⟨closes, -⟩ := List.isChain_cons_cons.mp chain
      obtain rfl := closes rfl
      exact absurd rfl ordinary
  | case5 char next rest other inductionHypothesis =>
      obtain ⟨others, chars⟩ := inductionHypothesis chain.tail
      refine ⟨?_, by rw [List.map_cons, chars]⟩
      rw [List.forall_mem_cons]
      exact ⟨isLiteral_escaped char, others⟩

theorem escapesOnlyMeta_escape_cons_of_ne
    {char : Char}
    (other : char ≠ mark)
    (text : Text) :
    escapesOnlyMeta mark false (escape mark [] (char :: text)) =
      escapesOnlyMeta mark false (escape mark [] text) := by
  rw [escape_cons]
  cases meaning : isMeta char <;> simp [escapesOnlyMeta, other, meaning]

/-- The escapes of such a text are well placed. -/
theorem escapesOnlyMeta_escape
    (neutral : isMeta mark = false)
    (chain : text.IsChain fun char next => char = mark → next = ']') :
    escapesOnlyMeta mark false (escape mark [] text) = true := by
  induction text using Glyph.ofEscaped.induct mark with
  | case1 => rfl
  | case2 char =>
      by_cases same : char = mark
      · rw [same, (escape_eq_mark_iff neutral).mpr rfl]
        simp [escapesOnlyMeta]
      · rw [escapesOnlyMeta_escape_cons_of_ne same]
        rfl
  | case3 next rest meaning inductionHypothesis =>
      have other := ne_of_isMeta neutral meaning
      obtain ⟨-, following⟩ := List.isChain_cons_cons.mp chain
      rw [escape_cons, escape_cons, if_neg (by simp [neutral]), if_pos meaning]
      simpa [escapesOnlyMeta, other, meaning] using inductionHypothesis following.tail
  | case4 next rest ordinary inductionHypothesis =>
      obtain ⟨closes, -⟩ := List.isChain_cons_cons.mp chain
      obtain rfl := closes rfl
      exact absurd rfl ordinary
  | case5 char next rest other inductionHypothesis =>
      rw [escapesOnlyMeta_escape_cons_of_ne other]
      exact inductionHypothesis chain.tail

end Escape

/-! ## The pattern of an escaped text -/

/-- A pattern is what is built from its text, escape and options. -/
theorem Pattern.build_eq_ok_iff
    {text : Text}
    {escape : Option Char}
    {options : Options}
    {pattern : Pattern} :
    build text escape options = .ok pattern ↔
      pattern.text = text ∧ pattern.escape = escape ∧ pattern.options = options := by
  constructor
  · intro built
    unfold build at built
    split at built
    · split at built
      · obtain rfl := Except.ok.inj built
        exact ⟨rfl, rfl, rfl⟩
      · cases built
    · cases built
  · rcases pattern with ⟨text, escape, options, events, placed, reads⟩
    rintro ⟨rfl, rfl, rfl⟩
    unfold build
    rw [dif_pos placed]
    split
    · rename_i found same
      obtain rfl := Option.some.inj (same.symm.trans reads)
      rfl
    · rename_i unreadable
      rw [reads] at unreadable
      cases unreadable

namespace Escape

variable {mark : Char} {text : Text}

theorem ordinary_of_neutral (neutral : isMeta mark = false) :
    ∀ char, some mark = some char → isMeta char = false := by
  rintro char ⟨rfl⟩
  exact neutral

theorem events?_escape
    (neutral : isMeta mark = false)
    (other : text ≠ [mark]) :
    events? (some mark) (escape mark [] text) =
      Glyph.events? (Glyph.ofEscaped mark text) := by
  have unlike : escape mark [] text ≠ (some mark).toList := fun same =>
    other ((escape_eq_mark_iff neutral).mp same)
  rw [events?_of_ne (ordinary_of_neutral neutral) unlike, ofText_escape neutral]

/-- The pattern of the mark alone is empty. -/
theorem isMatch_nil_of_mark
    (neutral : isMeta mark = false)
    {pattern : Pattern}
    (built : Pattern.build (escape mark [] [mark]) (some mark) .none = .ok pattern) :
    pattern.isMatch [] = true := by
  obtain ⟨same, escapes, -⟩ := Pattern.build_eq_ok_iff.mp built
  have reads := pattern.reads
  have empty := Reading.ofText_escape (ordinary_of_neutral neutral)
  have events : pattern.events = [].flatMap Construct.events := by
    rw [same, escapes, (escape_eq_mark_iff neutral).mpr rfl, events?,
      show [mark] = (some mark).toList from rfl, empty] at reads
    exact (Option.some.inj reads).symm
  rw [Pattern.isMatch_iff_accepts, Pattern.portions_of_events events]
  exact .nil

/-- If the pattern of an escaped text matches the text and nothing else, then every mark
of the text stands before a closing bracket or at the end. -/
theorem isChain_of_matches_only_text
    (neutral : isMeta mark = false)
    (other : text ≠ [mark])
    {pattern : Pattern}
    (built : Pattern.build (escape mark [] text) (some mark) .none = .ok pattern)
    (only : ∀ line, pattern.isMatch line = true → line = text) :
    text.IsChain fun char next => char = mark → next = ']' := by
  obtain ⟨same, escapes, -⟩ := Pattern.build_eq_ok_iff.mp built
  have reads := pattern.reads
  rw [same, escapes, events?_escape neutral other] at reads
  obtain ⟨constructs, grouped, reads⟩ := Option.bind_eq_some_iff.mp reads
  obtain ⟨ordered, events⟩ := Construct.eventsOf?_eq_some_iff.mp reads
  have spells := Glyph.spells_constructs? grouped
  have wellFormed : ∀ construct ∈ constructs, construct.WellFormed :=
      fun construct present =>
    ⟨spells.ne_set_nil construct present, ordered construct present⟩
  have sample : ∀ filler, constructs.flatMap (Construct.sample filler) = text := by
    intro filler
    apply only
    rw [Pattern.isMatch_iff_accepts, Pattern.portions_of_events events]
    exact Construct.accepts_samples wellFormed pattern.options filler
  have atMost := length_ofEscaped_le mark text
  have atLeast := spells.length_samples_le 'a'
  rw [sample] at atLeast
  refine isChain_of_isLiteral neutral ?_ atLeast
  refine spells.isLiteral_of_samples (show 'a' ≠ 'b' by decide) ?_ ?_
  · rw [sample, sample]
  · rwa [sample]

/-- With a mark that has no meaning of its own, an escaped text becomes a pattern that
matches the text and nothing else exactly if the text is not the mark alone, and every
mark in it stands before a closing bracket or at the end. -/
theorem matches_only_text_iff
    (mark : Char)
    (neutral : isMeta mark = false)
    (text : Text) :
    (∃ pattern, Pattern.build (escape mark [] text) (some mark) .none = .ok pattern ∧
        ∀ line, pattern.isMatch line = true ↔ line = text) ↔
      text ≠ [mark] ∧ text.IsChain fun char next => char = mark → next = ']' := by
  constructor
  · rintro ⟨pattern, built, only⟩
    have other : text ≠ [mark] := by
      rintro rfl
      have nothing := (only []).mp (isMatch_nil_of_mark neutral built)
      cases nothing
    exact ⟨other, isChain_of_matches_only_text neutral other built fun line =>
      (only line).mp⟩
  · rintro ⟨other, chain⟩
    obtain ⟨literal, chars⟩ := isLiteral_of_isChain chain
    have placed : escapesPlaced (some mark) (escape mark [] text) = true :=
      escapesOnlyMeta_escape neutral chain
    have reads : events? (some mark) (escape mark [] text) =
        some ((text.map Construct.literal).flatMap Construct.events) := by
      rw [events?_escape neutral other, Glyph.events?,
        Glyph.constructs?_of_isLiteral literal, chars]
      exact Construct.eventsOf?_eq_some_iff.mpr ⟨by simp [Construct.isOrdered], rfl⟩
    refine ⟨⟨_, _, _, _, placed, reads⟩, Pattern.build_eq_ok_iff.mpr ⟨rfl, rfl, rfl⟩, ?_⟩
    intro line
    rw [Pattern.isMatch_iff_accepts, Pattern.portions_of_events rfl]
    exact Construct.accepts_literals

/-- A mark before a closing bracket, and another one at the end. -/
theorem matches_only_text_example :
    isMeta '\\' = false ∧
      ∃ pattern, Pattern.build (escape '\\' [] "a\\]*\\".toList) (some '\\') .none =
        .ok pattern ∧ ∀ line, pattern.isMatch line = true ↔ line = "a\\]*\\".toList :=
  ⟨by decide, (matches_only_text_iff '\\' (by decide) _).mpr ⟨by decide, by decide⟩⟩

/-- A mark before a character without a meaning of its own is refused. -/
theorem build_escape_mark_before_ordinary :
    isMeta '\\' = false ∧
      Pattern.build (escape '\\' [] "a\\b".toList) (some '\\') .none =
        .error (.escapedOrdinary (some '\\') "a\\b".toList) :=
  ⟨by decide, rfl⟩

end Escape
end WildcardDiff
