import Mathlib.Data.List.Chain
import WildcardDiff.Proofs.Text.Pieces

/-!
# Lines and their breaks

A text whose breaks are all made line feeds is split where the line feeds are. So the
lines of a text are got back whichever breaks end them, unless a carriage return meets
the line feed that ends an empty line: the two make a single break. Joined by line
feeds, lines are got back as well, but for an empty last one.
-/

namespace WildcardDiff
namespace Lines

/-! ## Breaks made alike -/

/-- A text in which a line feed stands for each carriage return with a line feed after
it. -/
def withoutPairs : Text → Text
  | [] => []
  | '\r' :: '\n' :: rest => '\n' :: withoutPairs rest
  | char :: rest => char :: withoutPairs rest

/-- A line feed in place of a carriage return; other characters stay as they are. -/
def feedFor (char : Char) : Char :=
  if char = '\r' then '\n' else char

/-- A text in which line feeds are the only breaks: they stand first for the pairs of both
characters and then for the carriage returns that are left. -/
def unified (text : Text) : Text :=
  (withoutPairs text).map feedFor

theorem unified_pair (rest : Text) :
    unified ('\r' :: '\n' :: rest) = '\n' :: unified rest := rfl

theorem unified_cons
    {char : Char}
    {rest : Text}
    (single : char = '\r' → rest.head? ≠ some '\n') :
    unified (char :: rest) = feedFor char :: unified rest := by
  unfold unified
  rw [withoutPairs, List.map_cons]
  rintro following rfl rfl
  exact single rfl rfl

theorem return_not_mem_unified (text : Text) : '\r' ∉ unified text := by
  unfold unified
  rw [List.mem_map]
  rintro ⟨char, -, same⟩
  unfold feedFor at same
  split at same
  · exact absurd same (by decide)
  · contradiction

/-- A text without carriage returns stays as it is. -/
theorem unified_of_not_mem
    {text : Text}
    (absent : '\r' ∉ text) :
    unified text = text := by
  induction text with
  | nil => rfl
  | cons char rest inductionHypothesis =>
      rw [List.mem_cons, not_or] at absent
      rw [unified_cons fun same =>
        absurd same.symm absent.1, inductionHypothesis absent.2,
        feedFor, if_neg (Ne.symm absent.1)]

/-- The pieces of a text between its breaks are the pieces between the line feeds that
stand for them. -/
theorem pieces_eq_splitAtChar (text : Text) :
    pieces text = Text.splitAtChar '\n' (unified text) := by
  have single_of_unpaired : ∀ {char : Char} {rest : Text},
      (∀ following, char = '\r' → rest = '\n' :: following → False) →
      char = '\r' → rest.head? ≠ some '\n' := by
    intro char rest unpaired returns feeds
    obtain ⟨following, rfl⟩ := List.head?_eq_some_iff.mp feeds
    exact unpaired following returns rfl
  fun_induction pieces text with
  | case1 => rfl
  | case2 rest inductionHypothesis =>
      rw [unified_pair, Text.splitAtChar, if_pos rfl, inductionHypothesis]
  | case3 char rest unpaired breaks inductionHypothesis =>
      have fed : feedFor char = '\n' := by
        rcases breaks with rfl | rfl <;> rfl
      rw [unified_cons (single_of_unpaired unpaired), Text.splitAtChar, if_pos fed,
        inductionHypothesis]
  | case4 char rest unpaired plain piece following split inductionHypothesis =>
      rw [not_or] at plain
      have kept : feedFor char = char := if_neg plain.1
      rw [unified_cons (single_of_unpaired unpaired), kept, Text.splitAtChar,
        if_neg plain.2, ← inductionHypothesis, split]
  | case5 char rest unpaired plain split inductionHypothesis =>
      exact absurd (inductionHypothesis.symm.trans split) (Text.splitAtChar_ne_nil _ _)

/-! ## Lines without breaks -/

/-- A text holds no character of a break. -/
def Unbroken (text : Text) : Prop :=
  ∀ char ∈ text, char ≠ '\r' ∧ char ≠ '\n'

instance (text : Text) : Decidable (Unbroken text) :=
  List.decidableBAll _ text

theorem unbroken_iff {text : Text} : Unbroken text ↔ '\r' ∉ text ∧ '\n' ∉ text := by
  unfold Unbroken
  simp only [forall_and]
  exact and_congr List.forall_mem_ne' List.forall_mem_ne'

theorem unbroken_of_mem_pieces {text piece : Text} (present : piece ∈ pieces text) :
    Unbroken piece := by
  rw [pieces_eq_splitAtChar] at present
  have within : piece.Sublist (unified text) := by
    have joined := Text.join_sublist (List.singleton_sublist.mpr present) ['\n']
    rwa [Text.join_singleton, Text.join_splitAtChar] at joined
  rw [unbroken_iff]
  exact ⟨fun broken => return_not_mem_unified text (within.mem broken),
    Text.not_mem_of_mem_splitAtChar present⟩

/-- Lines without breaks are the pieces of the text in which line feeds stand between
them. -/
theorem pieces_join
    {lines : List Text}
    (more : lines ≠ [])
    (unbroken : ∀ line ∈ lines, Unbroken line) :
    pieces (Text.join ['\n'] lines) = lines := by
  have absent : '\r' ∉ Text.join ['\n'] lines := by
    intro present
    rcases Text.mem_join present with between | ⟨line, listed, held⟩
    · exact absurd between (by decide)
    · exact (unbroken_iff.mp (unbroken line listed)).1 held
  rw [pieces_eq_splitAtChar, unified_of_not_mem absent]
  exact Text.splitAtChar_join more fun line listed =>
    (unbroken_iff.mp (unbroken line listed)).2

theorem ofText_eq (text : Text) : ofText text = dropEmptyLast (pieces text) := by
  unfold ofText
  split
  · rename_i empty
    subst empty
    rfl
  · rfl

theorem dropEmptyLast_sublist (lines : List Text) :
    (dropEmptyLast lines).Sublist lines := by
  unfold dropEmptyLast
  split
  · exact List.dropLast_sublist lines
  · exact List.Sublist.refl lines

theorem dropEmptyLast_concat (lines : List Text) (last : Text) :
    dropEmptyLast (lines ++ [last]) = lines ++ if last = [] then [] else [last] := by
  unfold dropEmptyLast
  rw [List.getLast?_concat, List.dropLast_concat]
  by_cases empty : last = []
  · rw [if_pos (congrArg some empty), if_pos empty, List.append_nil]
  · rw [if_neg fun same => empty (Option.some.inj same), if_neg empty]

/-- Nothing is dropped unless the last line is empty. -/
theorem dropEmptyLast_eq_self_iff {lines : List Text} :
    dropEmptyLast lines = lines ↔
      lines = [] ∨ ∃ last, lines.getLast? = some last ∧ last ≠ [] := by
  rcases List.eq_nil_or_concat lines with rfl | ⟨front, last, rfl⟩
  · exact iff_of_true rfl (.inl rfl)
  · rw [List.concat_eq_append, dropEmptyLast_concat]
    simp

/-! ## Ended lines -/

/-- The three line breaks. -/
inductive Break
  | returnFeed
  | carriageReturn
  | lineFeed
  deriving DecidableEq

/-- The characters of a break. -/
def Break.text : Break → Text
  | .returnFeed => ['\r', '\n']
  | .carriageReturn => ['\r']
  | .lineFeed => ['\n']

/-- A line with the break that ends it. -/
structure Ended where
  line : Text
  ending : Break

namespace Ended

/-- The text of a line and its break. -/
def text (ended : Ended) : Text :=
  ended.line ++ ended.ending.text

/-- Two ended lines in a row do not run together: it is not the case that the first ends
in a carriage return and the second is an empty line that ends in a line feed. -/
def Apart (first second : Ended) : Prop :=
  ¬(first.ending = .carriageReturn ∧ second.line = [] ∧ second.ending = .lineFeed)

instance (first second : Ended) : Decidable (first.Apart second) :=
  inferInstanceAs (Decidable (¬(_ ∧ _ ∧ _)))

end Ended

theorem unified_append {line : Text} (unbroken : Unbroken line) (rest : Text) :
    unified (line ++ rest) = line ++ unified rest := by
  induction line with
  | nil => rfl
  | cons char line inductionHypothesis =>
      unfold Unbroken at unbroken inductionHypothesis
      rw [List.forall_mem_cons] at unbroken
      obtain ⟨⟨noReturn, -⟩, others⟩ := unbroken
      rw [List.cons_append, unified_cons fun same => absurd same noReturn,
        inductionHypothesis others, feedFor, if_neg noReturn, List.cons_append]

theorem unified_break
    {ending : Break}
    {rest : Text}
    (single : ending = .carriageReturn → rest.head? ≠ some '\n') :
    unified (ending.text ++ rest) = '\n' :: unified rest := by
  cases ending with
  | returnFeed => exact unified_pair rest
  | carriageReturn => exact unified_cons fun _ => single rfl
  | lineFeed => exact unified_cons fun returns => absurd returns (by decide)

/-- After a line that is apart from the next one no line feed follows its carriage
return. -/
theorem head?_ne_feed
    {first second : Ended}
    (apart : first.Apart second)
    (returns : first.ending = .carriageReturn)
    (unbroken : Unbroken second.line)
    (rest : Text) :
    (second.text ++ rest).head? ≠ some '\n' := by
  obtain ⟨line, ending⟩ := second
  cases line with
  | nil =>
      cases ending with
      | returnFeed => simp [Ended.text, Break.text]
      | carriageReturn => simp [Ended.text, Break.text]
      | lineFeed => exact absurd ⟨returns, rfl, rfl⟩ apart
  | cons char line =>
      have plain := (unbroken char List.mem_cons_self).2
      simpa [Ended.text] using plain

/-- Ended lines become lines with line feeds between them, before a last one that
nothing ends. -/
theorem unified_ended
    {ended : List Ended}
    {last : Text}
    (unbroken : ∀ line ∈ ended, Unbroken line.line)
    (unbrokenLast : Unbroken last)
    (apart : ended.IsChain Ended.Apart) :
    unified (ended.flatMap Ended.text ++ last) =
      Text.join ['\n'] (ended.map Ended.line ++ [last]) := by
  induction ended with
  | nil =>
      exact unified_of_not_mem (unbroken_iff.mp unbrokenLast).1
  | cons first ended inductionHypothesis =>
      rw [List.forall_mem_cons] at unbroken
      have single : first.ending = .carriageReturn →
          (ended.flatMap Ended.text ++ last).head? ≠ some '\n' := by
        intro returns
        cases ended with
        | nil =>
            intro feeds
            exact (unbroken_iff.mp unbrokenLast).2 (List.mem_of_head? feeds)
        | cons second ended =>
            rw [List.flatMap_cons, List.append_assoc]
            refine head?_ne_feed (List.isChain_cons_cons.mp apart).1 returns ?_ _
            exact unbroken.2 second List.mem_cons_self
      rw [List.flatMap_cons, Ended.text, List.append_assoc, List.append_assoc,
        unified_append unbroken.1, unified_break single,
        inductionHypothesis unbroken.2 apart.tail, List.map_cons, List.cons_append,
        Text.join_cons _ _ (by simp), List.append_assoc, List.singleton_append]

/-- Lines that hold no breaks are the lines of the text that they make with any breaks
at their ends, where the last one may go without unless it is empty, and no carriage
return meets a line feed. The lines of a text hold no breaks, depend only on where its
breaks are, and make a text with the same lines when they are joined by line feeds,
unless the last one is empty. -/
theorem ofText_ended_and_join :
    (∀ (ended : List Ended) (last : Text),
      (∀ line ∈ ended, Unbroken line.line) → Unbroken last → ended.IsChain Ended.Apart →
        ofText (ended.flatMap Ended.text ++ last) =
          ended.map Ended.line ++ if last = [] then [] else [last]) ∧
      ∀ text : Text,
        (∀ line ∈ ofText text, Unbroken line) ∧
        ofText (unified text) = ofText text ∧
        (ofText (Text.join ['\n'] (ofText text)) = ofText text ↔
          ofText text = [] ∨ ∃ last, (ofText text).getLast? = some last ∧ last ≠ []) := by
  have unbroken : ∀ text, ∀ line ∈ ofText text, Unbroken line := by
    intro text line listed
    rw [ofText_eq] at listed
    exact unbroken_of_mem_pieces ((dropEmptyLast_sublist _).mem listed)
  refine ⟨?_, fun text => ⟨unbroken text, ?_, ?_⟩⟩
  · intro ended last unbrokenEnded unbrokenLast apart
    have noFeeds : ∀ line ∈ ended.map Ended.line ++ [last], '\n' ∉ line := by
      rw [List.forall_mem_append, List.forall_mem_map, List.forall_mem_singleton]
      exact ⟨fun first listed => (unbroken_iff.mp (unbrokenEnded first listed)).2,
        (unbroken_iff.mp unbrokenLast).2⟩
    rw [ofText_eq, pieces_eq_splitAtChar, unified_ended unbrokenEnded unbrokenLast apart,
      Text.splitAtChar_join (by simp) noFeeds, dropEmptyLast_concat]
  · rw [ofText_eq, ofText_eq, pieces_eq_splitAtChar, pieces_eq_splitAtChar,
      unified_of_not_mem (return_not_mem_unified text)]
  · cases lines : ofText text with
    | nil => exact iff_of_true rfl (.inl rfl)
    | cons first others =>
        rw [← lines, ofText_eq (Text.join _ _),
          pieces_join (by simp [lines]) (unbroken text)]
        exact dropEmptyLast_eq_self_iff

/-- All three breaks, an empty line between a carriage return and a pair, and a last
line that nothing ends. -/
theorem ofText_ended_example :
    let ended : List Ended :=
      [⟨"a".toList, .carriageReturn⟩, ⟨[], .returnFeed⟩, ⟨"b".toList, .lineFeed⟩,
        ⟨[], .lineFeed⟩]
    (∀ line ∈ ended, Unbroken line.line) ∧ Unbroken "c".toList ∧
    ended.IsChain Ended.Apart ∧
      ended.flatMap Ended.text ++ "c".toList = "a\r\r\nb\n\nc".toList ∧
      ofText "a\r\r\nb\n\nc".toList = ["a".toList, [], "b".toList, [], "c".toList] := by
  intro ended
  have unbroken : ∀ line ∈ ended, Unbroken line.line := by decide
  have unbrokenLast : Unbroken "c".toList := by decide
  have apart : ended.IsChain Ended.Apart := by decide
  exact ⟨unbroken, unbrokenLast, apart, rfl,
    ofText_ended_and_join.1 ended "c".toList unbroken unbrokenLast apart⟩

end Lines
end WildcardDiff
