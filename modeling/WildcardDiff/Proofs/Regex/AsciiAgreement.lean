import WildcardDiff.Proofs.Regex.CaseAgreement
import WildcardDiff.Proofs.Pattern.Characters

/-!
# Agreement within ASCII

Within ASCII the case tables say little: capitals and small letters lie 32 apart,
nothing else has case, and no letter is the same as another one but for its case. So the
three ways in which letter case is ignored coincide, and a pattern and both of its
regular expressions accept the same texts.
-/

namespace WildcardDiff

/-- Whether a character is an ASCII character. -/
def IsAscii (char : Char) : Prop :=
  char.toNat < 128

/-! ## Case tables -/

namespace CaseTable

/-- The codes of ASCII. -/
def asciiRun : Run := ⟨0, 127, 1, 0⟩

section

set_option maxRecDepth 4000

theorem lowerRuns_ascii :
    smallRuns = ⟨304, 304, 1, 105⟩ :: ⟨65, 90, 1, 97⟩ :: lowerRuns.tail ∧
      shuns lowerRuns.tail asciiRun = true :=
  ⟨rfl, rfl⟩

theorem upperRuns_ascii :
    upperRuns = ⟨97, 122, 1, 65⟩ :: upperRuns.tail ∧
      shuns upperRuns.tail asciiRun = true :=
  ⟨rfl, rfl⟩

theorem foldRuns_ascii : shuns foldRuns asciiRun = true := rfl

theorem sequences_ascii :
    ((upperSequences ++ foldSequences).all fun entry => Nat.ble 128 entry.1) = true :=
  rfl

end

theorem asciiRun_holds
    {char : Char}
    (ascii : IsAscii char) :
    asciiRun.Holds char.toNat := by
  refine ⟨Nat.zero_le _, Nat.le_of_lt_succ ascii, Nat.mod_one _⟩

theorem lookup_ascii
    {table : List (Nat × List Nat)}
    (apart : table.all (fun entry => Nat.ble 128 entry.1) = true)
    {char : Char}
    (ascii : IsAscii char) :
    table.lookup char.toNat = none := by
  rw [List.lookup_eq_none_iff]
  intro entry listed
  have above := Nat.ble_eq.mp (List.all_eq_true.mp apart entry listed)
  have below : char.toNat < 128 := ascii
  rw [bne_iff_ne]
  omega

end CaseTable

namespace Case

open CaseTable

variable {char : Char}

theorem toNat_small_of_ascii (ascii : IsAscii char) :
    (small char).toNat =
      if 65 ≤ char.toNat ∧ char.toNat ≤ 90 then char.toNat + 32 else char.toNat := by
  obtain ⟨table, apart⟩ := lowerRuns_ascii
  have below : char.toNat < 128 := ascii
  rw [toNat_small, image, table, runImage?_cons, runImage?_cons,
    runImage?_of_shuns apart (asciiRun_holds ascii)]
  simp only [Run.image?, Nat.mod_one, and_true]
  rw [if_neg (by omega)]
  split
  · simp
    omega
  · rfl

theorem lower_of_ascii (ascii : IsAscii char) : lower char = [small char] := by
  apply lower_eq
  rintro rfl
  unfold IsAscii at ascii
  exact absurd ascii (by decide)

theorem fold_of_ascii (ascii : IsAscii char) : fold char = lower char := by
  have sequences := sequences_ascii
  rw [List.all_append, Bool.and_eq_true] at sequences
  unfold fold
  rw [lookup_ascii sequences.2 ascii,
    runImage?_of_shuns foldRuns_ascii (asciiRun_holds ascii)]

theorem upper_of_ascii (ascii : IsAscii char) :
    ∃ single, upper char = [single] ∧ single.toNat =
      if 97 ≤ char.toNat ∧ char.toNat ≤ 122 then char.toNat - 32 else char.toNat := by
  obtain ⟨table, apart⟩ := upperRuns_ascii
  have sequences := sequences_ascii
  rw [List.all_append, Bool.and_eq_true] at sequences
  refine ⟨mapped upperRuns char, ?_, ?_⟩
  · unfold upper
    rw [lookup_ascii sequences.1 ascii]
  · rw [toNat_mapped lands_upperRuns, image, table, runImage?_cons,
      runImage?_of_shuns apart (asciiRun_holds ascii)]
    simp only [Run.image?, Nat.mod_one, and_true]
    split
    · simp
      omega
    · rfl

end Case

/-! ## Letters -/

namespace Letter

/-- No class holds two ASCII characters. -/
theorem classes_ascii :
    ∀ letters ∈ classes, ∀ left ∈ letters, ∀ right ∈ letters,
      left.toNat < 128 -> right.toNat < 128 -> left = right := by
  have checked : (classes.all fun letters => letters.all fun left =>
      letters.all fun right =>
      !(left.toNat < 128) || !(right.toNat < 128) || left == right) = true :=
    rfl
  intro letters listed left leftIn right rightIn leftAscii rightAscii
  simp only [List.all_eq_true] at checked
  simpa [leftAscii, rightAscii] using checked letters listed left leftIn right rightIn

variable {left right : Char}

theorem small_of_ascii (ascii : IsAscii left) : IsAscii (Case.small left) := by
  have below : left.toNat < 128 := ascii
  unfold IsAscii
  rw [Case.toNat_small_of_ascii ascii]
  split <;> omega

theorem small_eq_of_ascii
    (leftAscii : IsAscii left)
    (rightAscii : IsAscii right)
    (alike : same left right = true) :
    Case.small left = Case.small right := by
  rcases same_iff.mp alike with equal | ⟨letters, listed, inLeft, inRight⟩
  · exact equal
  · exact classes_ascii letters listed _ inLeft _ inRight (small_of_ascii leftAscii)
      (small_of_ascii rightAscii)

/-- Within ASCII the same letter is always a form of a character. -/
theorem IsForm.of_ascii
    (leftAscii : IsAscii left)
    (rightAscii : IsAscii right)
    (alike : Letter.same left right = true) :
    IsForm left right := by
  have codes := congrArg Char.toNat (small_eq_of_ascii leftAscii rightAscii alike)
  rw [Case.toNat_small_of_ascii leftAscii, Case.toNat_small_of_ascii rightAscii] at codes
  by_cases equal : right = left
  · exact .inl equal
  · have apart : right.toNat ≠ left.toNat := fun same => equal (Char.toNat_inj.mp same)
    by_cases capital : 65 ≤ left.toNat ∧ left.toNat ≤ 90
    · -- A capital and its small letter.
      have lowered : Case.small left = right := by
        apply Char.toNat_inj.mp
        rw [Case.toNat_small_of_ascii leftAscii, if_pos capital]
        rw [if_pos capital] at codes
        split at codes <;> omega
      exact .inr (.inl (lowered ▸ Case.lower_of_ascii leftAscii))
    · -- A small letter and its capital.
      obtain ⟨single, raised, code⟩ := Case.upper_of_ascii leftAscii
      have same : single = right := by
        apply Char.toNat_inj.mp
        rw [code]
        rw [if_neg capital] at codes
        split at codes <;> split <;> omega
      exact .inr (.inr (same ▸ raised))

end Letter

/-! ## Constructs -/

namespace Construct

/-- Whether all characters of a construct are ASCII characters. -/
def AllAscii (construct : Construct) : Prop :=
  ∀ event ∈ construct.events, ∀ char ∈ event.chars, IsAscii char

theorem ascii_of_choice
    {choices : List Choice}
    {choice : Choice}
    (ascii : (Construct.set choices).AllAscii)
    (listed : choice ∈ choices) :
    ∀ char ∈ choice.event.chars, IsAscii char := by
  apply ascii choice.event
  simp only [events, List.cons_append, List.mem_cons, List.mem_append, List.mem_map]
  exact .inr (.inl ⟨choice, listed, rfl⟩)

/-- A set that lists only ASCII characters takes them. -/
theorem takesListed_of_ascii {construct : Construct} (ascii : construct.AllAscii) :
    construct.TakesListed := by
  rintro choices rfl listed among
  have listedAscii : IsAscii listed :=
    ascii_of_choice ascii among listed (by simp [Choice.event, Event.chars])
  refine Regex.Class.accepts_listed (one_mem_items_iff.mpr among) (.inl ?_)
  have below : (Case.small listed).toNat < 128 := Letter.small_of_ascii listedAscii
  rw [Regex.isBasic_iff]
  omega

variable {options : Options}

/-- Folding does not tell an ASCII character from the same letter. -/
theorem folding_eq_of_same
    (ignores : options.ignoreCase = true)
    {left right : Char}
    (leftAscii : IsAscii left)
    (rightAscii : IsAscii right)
    (alike : Letter.same left right = true) :
    options.folding.apply [left] = options.folding.apply [right] := by
  have lowered : Case.lower left = Case.lower right := by
    rw [Case.lower_of_ascii leftAscii, Case.lower_of_ascii rightAscii,
      Letter.small_eq_of_ascii leftAscii rightAscii alike]
  rcases folding_cases ignores with folding | folding
  · simpa [folding, Folding.apply] using lowered
  · simpa [folding, Folding.apply, Case.fold_of_ascii leftAscii,
      Case.fold_of_ascii rightAscii]
      using lowered

/-- A range up to an ASCII character accepts of ASCII only what it holds a form of. -/
theorem exists_form_of_acceptsLetter
    {choice : Choice}
    {given : Char}
    (choiceAscii : ∀ char ∈ choice.event.chars, IsAscii char)
    (givenAscii : IsAscii given)
    (accepts : choice.item.acceptsLetter given = true) :
    ∃ form, Letter.IsForm given form ∧ choice.item.accepts form = true := by
  cases choice with
  | one listed =>
      have listedAscii : IsAscii listed :=
        choiceAscii listed (by simp [Choice.event, Event.chars])
      have basic : Regex.isBasic (Case.small listed) = true := by
        have below : (Case.small listed).toNat < 128 := Letter.small_of_ascii listedAscii
        rw [Regex.isBasic_iff]
        omega
      simp only [Choice.item, Regex.Item.acceptsLetter, basic, if_true] at accepts
      refine ⟨listed, .of_ascii givenAscii listedAscii (Letter.same_symm accepts), ?_⟩
      simp [Choice.item, Regex.Item.accepts]
  | range low high =>
      have highAscii : high.toNat < 128 :=
        choiceAscii high (by simp [Choice.event, Event.chars])
      have basic : Regex.isBasic high = true := by
        rw [Regex.isBasic_iff]
        omega
      simp only [Choice.item, Regex.Item.acceptsLetter, basic, Bool.not_true,
        Bool.false_and, Bool.or_false, List.any_eq_true, Bool.and_eq_true] at accepts
      obtain ⟨form, variant, -, within⟩ := accepts
      have formAscii : IsAscii form := by
        simp only [Regex.inRange, Bool.and_eq_true, decide_eq_true_eq] at within
        exact Nat.lt_of_le_of_lt within.2 highAscii
      exact ⟨form, .of_ascii givenAscii formAscii
        (Letter.mem_variants_iff.mp variant), within⟩

/-- Within ASCII a pattern takes what its regular expressions take. -/
theorem charPortion_covers_of_ascii
    (ignores : options.ignoreCase = true)
    {construct : Construct}
    (ascii : construct.AllAscii) :
    Portion.Covers IsAscii (construct.charPortion options)
      (construct.portion true) := by
  cases construct with
  | literal char =>
      intro given givenAscii takes
      have charAscii : IsAscii char :=
        ascii (.literal char) (by simp [events]) char (by simp [Event.chars])
      have equal := folding_eq_of_same ignores charAscii givenAscii takes
      simpa [Element.takes, Folding.symbol] using equal
  | star => trivial
  | question => exact fun _ _ _ => rfl
  | set choices =>
      intro given givenAscii takes
      have contains : (charSet true choices).contains [given] = true := by
        rw [contains_charSet_iff]
        rcases Regex.Class.accepts_set_iff.mp takes with
          ⟨expected, single, alike⟩ | ⟨-, item, present, accepts⟩
        · have among : .one expected ∈ choices := by
            rw [← one_mem_items_iff, ← List.mem_eraseDups, single]
            exact List.mem_singleton_self _
          have expectedAscii : IsAscii expected :=
            ascii_of_choice ascii among expected (by simp [Choice.event, Event.chars])
          exact ⟨.one expected, among, expected,
            .of_ascii givenAscii expectedAscii (Letter.same_symm alike),
            by simp [Choice.item, Regex.Item.accepts]⟩
        · obtain ⟨choice, among, rfl⟩ := List.mem_map.mp present
          obtain ⟨form, isForm, held⟩ :=
            exists_form_of_acceptsLetter (ascii_of_choice ascii among) givenAscii accepts
          exact ⟨choice, among, form, isForm, held⟩
      exact ignores ▸ contains

end Construct

/-! ## Patterns -/

theorem Construct.allAscii_of_events
    {pattern : Pattern}
    {constructs : List Construct}
    (asciiText : ∀ char ∈ pattern.text, IsAscii char)
    (events : pattern.events = constructs.flatMap Construct.events) :
    ∀ construct ∈ constructs, construct.AllAscii := by
  intro construct present event among char carried
  apply asciiText
  refine mem_of_mem_chars pattern.reads ?_ carried
  rw [events]
  exact List.mem_flatMap.mpr ⟨construct, present, among⟩

/-- Within ASCII the portions of a pattern that ignores letter case accept the same
texts as those of its regular expressions. -/
theorem Pattern.isMatch_iff_accepts_of_ascii
    {pattern : Pattern}
    {constructs : List Construct}
    {text : Text}
    (ignores : pattern.options.ignoreCase = true)
    (events : pattern.events = constructs.flatMap Construct.events)
    (ascii : ∀ construct ∈ constructs, construct.AllAscii)
    (asciiText : ∀ char ∈ text, IsAscii char) :
    pattern.isMatch text = true ↔
      Portion.Accepts (constructs.map (Construct.portion true)) text := by
  rw [isMatch_iff_accepts, portions_of_events events]
  constructor
  · intro matched
    refine matched.map_mono ?_ (fun _ _ => trivial)
    exact fun construct present =>
      construct.portion_covers ignores
        (construct.takesListed_of_ascii (ascii construct present))
  · intro accepted
    refine accepted.map_mono ?_ asciiText
    exact fun construct present =>
      construct.charPortion_covers_of_ascii ignores (ascii construct present)

/-- An ASCII pattern that ignores letter case, a search with its plain regular
expression and a match of the whole text with its capturing one accept the same ASCII
texts. -/
theorem Pattern.matchers_agree_of_ascii
    (pattern : Pattern)
    (ignores : pattern.options.ignoreCase = true)
    (asciiPattern : ∀ char ∈ pattern.text, char.toNat < 128) :
    ∃ plain capturing,
      pattern.compileRegex? false = some plain ∧
      pattern.compileRegex? true = some capturing ∧
      ∀ text : Text, (∀ char ∈ text, char.toNat < 128) ->
        (pattern.isMatch text = true ↔
          (Regex.search pattern.options.ignoreCase plain text).isSome = true) ∧
        (pattern.isMatch text = true ↔
          (Regex.fullMatch pattern.options.ignoreCase capturing text).isSome = true) := by
  obtain ⟨constructs, wellFormed, events⟩ := pattern.exists_constructs
  refine ⟨_, _, compileRegex?_plain wellFormed events,
    compileRegex?_capturing wellFormed events, ?_⟩
  intro text asciiText
  have ascii := Construct.allAscii_of_events asciiPattern events
  rw [ignores, Regex.Frame.isSome_search_pieces, Regex.accepts_simplified,
    Regex.Frame.isSome_fullMatch_whole,
    isMatch_iff_accepts_of_ascii ignores events ascii asciiText]
  exact ⟨Iff.rfl, Iff.rfl⟩

theorem ascii_of_all
    {text : Text}
    (all : (text.all fun char => char.toNat < 128) = true) :
    ∀ char ∈ text, char.toNat < 128 := by
  simpa only [List.all_eq_true, decide_eq_true_eq] using all

/-- A range from a capital to a small letter, for lower case alone: it holds both cases
of its bounds, and the characters between the two alphabets. -/
theorem Pattern.matchers_agree_of_ascii_example :
    ∃ pattern : Pattern, pattern.text = "*[Z-a]K".toList ∧
      pattern.options.ignoreCase = true ∧
      (∀ char ∈ pattern.text, char.toNat < 128) ∧
      (∀ text ∈ ["xz^k".toList, "AK".toList, "zk".toList], pattern.isMatch text = true) ∧
      pattern.isMatch "bk".toList = false := by
  let pattern : Pattern :=
    ⟨"*[Z-a]K".toList, none, ⟨6⟩,
      [.star, .setOpen, .setRange 'Z' 'a', .setClose, .literal 'K'],
      by decide, by decide⟩
  have ignores : pattern.options.ignoreCase = true := by decide
  have ascii : ∀ char ∈ pattern.text, char.toNat < 128 := ascii_of_all (by decide)
  obtain ⟨plain, capturing, compiled, -, agrees⟩ :=
    pattern.matchers_agree_of_ascii ignores ascii
  have known : pattern.compileRegex? false = some
      [⟨.one (.set [.range 'Z' 'a']), false⟩, ⟨.one (.single 'K'), false⟩,
        ⟨.finish, false⟩] := by
    decide
  have pieces := Option.some.inj (compiled.symm.trans known)
  refine ⟨pattern, rfl, ignores, ascii, ?_, ?_⟩
  · intro text listed
    have asciiText : ∀ text ∈ ["xz^k".toList, "AK".toList, "zk".toList],
        (text.all fun char => char.toNat < 128) = true := by decide
    have found : ∀ text ∈ ["xz^k".toList, "AK".toList, "zk".toList],
        (Regex.search pattern.options.ignoreCase plain text).isSome = true := by
      rw [pieces]
      decide +kernel
    exact (agrees text (ascii_of_all (asciiText text listed))).1.mpr (found text listed)
  · rw [Bool.eq_false_iff, ne_eq, (agrees _ (ascii_of_all (by decide))).1, pieces]
    decide +kernel

end WildcardDiff
