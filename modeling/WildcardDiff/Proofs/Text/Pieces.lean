import Mathlib.Data.List.Infix
import WildcardDiff.Text.Lines

/-!
# Pieces of texts

A text that is split at a mark, or at a pair of marks, consists of its pieces with the
mark or the pair between them, and the pieces can be got back from the text that they
make. A text without line breaks is a single line.
-/

namespace WildcardDiff
namespace Text

/-! ## Beginnings -/

theorem after?_eq_some_iff {beginning text rest : Text} :
    after? beginning text = some rest ↔ text = beginning ++ rest := by
  induction beginning generalizing text with
  | nil => simp [after?]
  | cons expected beginning inductionHypothesis =>
      cases text with
      | nil => simp [after?]
      | cons char text =>
          rw [after?, Option.ite_none_right_eq_some, inductionHypothesis,
            List.cons_append, List.cons.injEq, eq_comm]

/-! ## Joining -/

@[simp] theorem join_nil (separator : Text) : join separator [] = [] := rfl

@[simp] theorem join_singleton (separator piece : Text) :
    join separator [piece] = piece := rfl

theorem join_cons (separator piece : Text) {pieces : List Text} (more : pieces ≠ []) :
    join separator (piece :: pieces) = piece ++ separator ++ join separator pieces := by
  cases pieces with
  | nil => exact absurd rfl more
  | cons next pieces => rfl

/-- A character in front of the first piece stands in front of the whole text. -/
theorem join_cons_cons
    (separator : Text)
    (char : Char)
    (piece : Text)
    (pieces : List Text) :
    join separator ((char :: piece) :: pieces) =
      char :: join separator (piece :: pieces) := by
  cases pieces <;> rfl

/-- Fewer pieces make less text. -/
theorem join_sublist
    {kept pieces : List Text}
    (within : kept.Sublist pieces)
    (separator : Text) :
    (join separator kept).Sublist (join separator pieces) := by
  induction within with
  | slnil => exact List.Sublist.refl _
  | @cons kept pieces piece within inductionHypothesis =>
      by_cases none : pieces = []
      · subst none
        rw [List.sublist_nil.mp within]
        exact List.nil_sublist _
      · rw [join_cons separator piece none]
        exact inductionHypothesis.trans (List.sublist_append_right _ _)
  | @cons_cons kept pieces piece within inductionHypothesis =>
      by_cases none : kept = []
      · subst none
        cases pieces with
        | nil => exact List.Sublist.refl _
        | cons next pieces =>
            rw [join_cons separator piece (List.cons_ne_nil next pieces), join_singleton,
              List.append_assoc]
            exact List.sublist_append_left _ _
      · have more : pieces ≠ [] := by
          rintro rfl
          exact none (List.sublist_nil.mp within)
        rw [join_cons separator piece none, join_cons separator piece more]
        exact (List.Sublist.refl _).append inductionHypothesis

/-- What a joined text holds stands in the separator or in one of the pieces. -/
theorem mem_join
    {separator : Text}
    {pieces : List Text}
    {char : Char}
    (present : char ∈ join separator pieces) :
    char ∈ separator ∨ ∃ piece ∈ pieces, char ∈ piece := by
  induction pieces with
  | nil => cases present
  | cons piece pieces inductionHypothesis =>
      cases pieces with
      | nil => exact .inr ⟨piece, List.mem_cons_self, present⟩
      | cons next pieces =>
          rw [join_cons _ _ (List.cons_ne_nil next pieces), List.mem_append,
            List.mem_append]
            at present
          rcases present with (here | between) | later
          · exact .inr ⟨piece, List.mem_cons_self, here⟩
          · exact .inl between
          · rcases inductionHypothesis later with between | ⟨other, listed, held⟩
            · exact .inl between
            · exact .inr ⟨other, List.mem_cons_of_mem _ listed, held⟩

/-! ## Splitting -/

theorem splitAtChar_ne_nil (mark : Char) (text : Text) : splitAtChar mark text ≠ [] := by
  cases text with
  | nil => exact List.cons_ne_nil _ _
  | cons char rest =>
      rw [splitAtChar]
      split
      · exact List.cons_ne_nil _ _
      · split <;> exact List.cons_ne_nil _ _

/-- The pieces of a text between the occurrences of a character, with the character
between them again, are the text. -/
theorem join_splitAtChar (mark : Char) (text : Text) :
    join [mark] (splitAtChar mark text) = text := by
  induction text with
  | nil => rfl
  | cons char rest inductionHypothesis =>
      rw [splitAtChar]
      split
      · rename_i same
        rw [join_cons _ _ (splitAtChar_ne_nil mark rest), inductionHypothesis, same]
        rfl
      · cases split : splitAtChar mark rest with
        | nil => exact absurd split (splitAtChar_ne_nil mark rest)
        | cons piece pieces => rw [join_cons_cons, ← split, inductionHypothesis]

theorem not_mem_of_mem_splitAtChar
    {mark : Char}
    {text piece : Text}
    (present : piece ∈ splitAtChar mark text) :
    mark ∉ piece := by
  induction text generalizing piece with
  | nil =>
      obtain rfl := List.mem_singleton.mp present
      exact List.not_mem_nil
  | cons char rest inductionHypothesis =>
      rw [splitAtChar] at present
      split at present
      · rcases List.mem_cons.mp present with rfl | present
        · exact List.not_mem_nil
        · exact inductionHypothesis present
      · rename_i other
        cases split : splitAtChar mark rest with
        | nil => exact absurd split (splitAtChar_ne_nil mark rest)
        | cons first pieces =>
            rw [split] at present inductionHypothesis
            rcases List.mem_cons.mp present with rfl | present
            · rw [List.mem_cons, not_or]
              exact ⟨Ne.symm other, inductionHypothesis List.mem_cons_self⟩
            · exact inductionHypothesis (List.mem_cons_of_mem _ present)

/-- A piece without the mark, in front of the mark, is the first piece. -/
theorem splitAtChar_append_cons
    {mark : Char}
    {piece : Text}
    (apart : mark ∉ piece)
    (text : Text) :
    splitAtChar mark (piece ++ mark :: text) = piece :: splitAtChar mark text := by
  induction piece with
  | nil => rw [List.nil_append, splitAtChar, if_pos rfl]
  | cons char piece inductionHypothesis =>
      rw [List.mem_cons, not_or] at apart
      rw [List.cons_append, splitAtChar, if_neg (Ne.symm apart.1),
        inductionHypothesis apart.2]

theorem splitAtChar_of_not_mem
    {mark : Char}
    {text : Text}
    (apart : mark ∉ text) :
    splitAtChar mark text = [text] := by
  induction text with
  | nil => rfl
  | cons char text inductionHypothesis =>
      rw [List.mem_cons, not_or] at apart
      rw [splitAtChar, if_neg (Ne.symm apart.1), inductionHypothesis apart.2]

/-- Pieces without the mark are the pieces of the text that they make with the mark
between them. -/
theorem splitAtChar_join
    {mark : Char}
    {pieces : List Text}
    (more : pieces ≠ [])
    (apart : ∀ piece ∈ pieces, mark ∉ piece) :
    splitAtChar mark (join [mark] pieces) = pieces := by
  induction pieces with
  | nil => exact absurd rfl more
  | cons piece pieces inductionHypothesis =>
      rw [List.forall_mem_cons] at apart
      cases pieces with
      | nil => exact splitAtChar_of_not_mem apart.1
      | cons next pieces =>
          rw [join_cons _ _ (List.cons_ne_nil next pieces), List.append_assoc,
            List.singleton_append, splitAtChar_append_cons apart.1,
            inductionHypothesis (List.cons_ne_nil next pieces) apart.2]

theorem splitAtPair_ne_nil (mark : Char) (text : Text) : splitAtPair mark text ≠ [] := by
  fun_cases splitAtPair mark text <;> exact List.cons_ne_nil _ _

/-- The pieces of a text between the occurrences of a pair, with the pair between them
again, are the text. -/
theorem join_splitAtPair (mark : Char) (text : Text) :
    join [mark, mark] (splitAtPair mark text) = text := by
  fun_induction splitAtPair mark text with
  | case1 => rfl
  | case2 char => rfl
  | case3 first second rest pair inductionHypothesis =>
      obtain ⟨rfl, rfl⟩ : first = mark ∧ second = mark := by simpa using pair
      rw [join_cons _ _ (splitAtPair_ne_nil _ rest), inductionHypothesis]
      rfl
  | case4 first second rest other piece pieces split inductionHypothesis =>
      rw [join_cons_cons, ← split, inductionHypothesis]
  | case5 first second rest other nothing inductionHypothesis =>
      exact absurd nothing (splitAtPair_ne_nil mark (second :: rest))

/-! ### The leftmost pairs

A text is cut at its leftmost pair of marks, and so is what follows the pair. In a run
of marks the pairs that come first count: three marks in a row are a pair and one mark
of the next piece.
-/

section

variable {mark : Char} {text piece : Text} {pieces : List Text}

/-- A pair stands in a text at its beginning or in what follows the first character. -/
theorem pair_infix_cons_iff {char : Char} :
    [mark, mark] <:+: char :: text ↔
      (char = mark ∧ text.head? = some mark) ∨ [mark, mark] <:+: text := by
  rw [List.infix_cons_iff, List.cons_prefix_cons]
  cases text with
  | nil => simp
  | cons next text => simp [List.cons_prefix_cons, eq_comm]

/-- A text is cut where a pair stands in it for the first time. -/
theorem splitAtPair_append
    (alone : ¬[mark, mark] <:+: piece ++ [mark])
    (rest : Text) :
    splitAtPair mark (piece ++ mark :: mark :: rest) =
      piece :: splitAtPair mark rest := by
  induction piece with
  | nil => simp [splitAtPair]
  | cons char piece inductionHypothesis =>
      rw [List.cons_append, pair_infix_cons_iff, not_or] at alone
      obtain ⟨next, others, split⟩ := List.exists_cons_of_ne_nil
        (show piece ++ mark :: mark :: rest ≠ [] by simp)
      have other : (char = mark && next = mark) = false := by
        have head : (piece ++ [mark]).head? = some next := by
          cases piece <;> simp_all
        by_contra both
        obtain ⟨rfl, rfl⟩ : char = mark ∧ next = mark := by simpa using both
        exact alone.1 ⟨rfl, head⟩
      rw [List.cons_append, split, splitAtPair, other, ← split,
        inductionHypothesis alone.2]
      rfl

/-- A text without a pair is not cut. -/
theorem splitAtPair_of_alone (alone : ¬[mark, mark] <:+: text) :
    splitAtPair mark text = [text] := by
  fun_induction splitAtPair mark text with
  | case1 => rfl
  | case2 char => rfl
  | case3 first second rest pair inductionHypothesis =>
      obtain ⟨rfl, rfl⟩ : first = mark ∧ second = mark := by simpa using pair
      exact absurd (List.prefix_append _ rest).isInfix alone
  | case4 first second rest other piece pieces split inductionHypothesis =>
      rw [pair_infix_cons_iff, not_or] at alone
      rw [inductionHypothesis alone.2] at split
      obtain ⟨rfl, rfl⟩ := List.cons.inj split
      rfl
  | case5 first second rest other nothing inductionHypothesis =>
      exact absurd nothing (splitAtPair_ne_nil mark (second :: rest))

/-- Whether pieces with a pair between each two of them are cut at the leftmost pairs: a
piece that has a pair behind it holds none, and none that its last mark makes with the
next one. -/
def AreCut (mark : Char) (pieces : List Text) : Prop :=
  (∀ piece ∈ pieces.dropLast, ¬[mark, mark] <:+: piece ++ [mark]) ∧
    ∀ piece ∈ pieces.getLast?, ¬[mark, mark] <:+: piece

theorem areCut_splitAtPair (mark : Char) (text : Text) :
    AreCut mark (splitAtPair mark text) := by
  fun_induction splitAtPair mark text with
  | case1 => simp [AreCut]
  | case2 char => simp [AreCut, List.infix_cons_iff]
  | case3 first second rest pair inductionHypothesis =>
      obtain ⟨next, others, split⟩ :=
        List.exists_cons_of_ne_nil (splitAtPair_ne_nil mark rest)
      rw [split] at inductionHypothesis ⊢
      simpa [AreCut, List.infix_cons_iff] using inductionHypothesis
  | case4 first second rest other piece pieces split inductionHypothesis =>
      have whole := join_splitAtPair mark (second :: rest)
      rw [split] at whole inductionHypothesis
      have other : first = mark → second ≠ mark := by simpa using other
      cases pieces with
      | nil =>
          rw [join_singleton] at whole
          subst whole
          refine ⟨fun piece absent => absurd absent List.not_mem_nil, ?_⟩
          intro piece same
          obtain rfl : first :: second :: rest = piece := Option.some.inj same
          rw [pair_infix_cons_iff, not_or]
          exact ⟨fun both => other both.1 (Option.some.inj both.2),
            inductionHypothesis.2 _ rfl⟩
      | cons next pieces =>
          obtain ⟨fronts, last⟩ := inductionHypothesis
          rw [List.dropLast_cons_cons, List.forall_mem_cons] at fronts
          refine ⟨?_, last⟩
          rw [List.dropLast_cons_cons, List.forall_mem_cons, List.cons_append,
            pair_infix_cons_iff, not_or]
          refine ⟨⟨fun both => other both.1 ?_, fronts.1⟩, fronts.2⟩
          rw [join_cons _ _ (List.cons_ne_nil next pieces)] at whole
          cases piece <;> simp_all
  | case5 first second rest other nothing inductionHypothesis =>
      exact absurd nothing (splitAtPair_ne_nil mark (second :: rest))

/-- Pieces cut at the leftmost pairs are the pieces of the text that they make. -/
theorem splitAtPair_join (held : pieces ≠ []) (cut : AreCut mark pieces) :
    splitAtPair mark (join [mark, mark] pieces) = pieces := by
  induction pieces with
  | nil => exact absurd rfl held
  | cons piece pieces inductionHypothesis =>
      cases pieces with
      | nil =>
          exact splitAtPair_of_alone (cut.2 piece rfl)
      | cons next pieces =>
          obtain ⟨fronts, last⟩ := cut
          rw [List.dropLast_cons_cons, List.forall_mem_cons] at fronts
          rw [List.getLast?_cons_cons] at last
          rw [join_cons _ _ (List.cons_ne_nil next pieces), List.append_assoc]
          exact (splitAtPair_append fronts.1 _).trans
            (congrArg _ (inductionHypothesis (List.cons_ne_nil next pieces)
              ⟨fronts.2, last⟩))

/-- The pieces of a text are those that make it and are cut at the leftmost pairs. -/
theorem splitAtPair_eq_iff :
    splitAtPair mark text = pieces ↔
      pieces ≠ [] ∧ AreCut mark pieces ∧ join [mark, mark] pieces = text := by
  constructor
  · rintro rfl
    exact ⟨splitAtPair_ne_nil mark text, areCut_splitAtPair mark text,
      join_splitAtPair mark text⟩
  · rintro ⟨held, cut, rfl⟩
    exact splitAtPair_join held cut

end

end Text

/-! ## Lines -/

namespace Lines

theorem pieces_of_unbroken
    {text : Text}
    (unbroken : ∀ char ∈ text, char ≠ '\r' ∧ char ≠ '\n') :
    pieces text = [text] := by
  induction text with
  | nil => rfl
  | cons char rest inductionHypothesis =>
      rw [List.forall_mem_cons] at unbroken
      obtain ⟨⟨noReturn, noFeed⟩, unbroken⟩ := unbroken
      rw [pieces.eq_def]
      split
      · rename_i empty
        cases empty
      · rename_i broken
        exact absurd (List.cons.inj broken).1 noReturn
      · rename_i first others _ same
        obtain ⟨rfl, rfl⟩ := List.cons.inj same
        rw [if_neg (not_or.mpr ⟨noReturn, noFeed⟩), inductionHypothesis unbroken]

/-- A text without line breaks is a single line, unless it is empty. -/
theorem ofText_of_unbroken
    {text : Text}
    (held : text ≠ [])
    (unbroken : ∀ char ∈ text, char ≠ '\r' ∧ char ≠ '\n') :
    ofText text = [text] := by
  have last : [text].getLast? ≠ some [] := by
    rw [List.getLast?_singleton]
    exact fun empty => held (Option.some.inj empty)
  unfold ofText dropEmptyLast
  rw [if_neg held, pieces_of_unbroken unbroken, if_neg last]

end Lines
end WildcardDiff
