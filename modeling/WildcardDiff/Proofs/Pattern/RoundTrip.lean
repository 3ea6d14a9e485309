import WildcardDiff.Proofs.Pattern.Unescape

/-!
# Escaping and unescaping

Escaping puts a mark before the characters that need one and leaves the marks that a
text has already as they are, while unescaping takes marks away in pairs. So a mark of
the text is taken for one that was put there if a mark or a character that was kept
follows it, and is lost. Everywhere else unescaping undoes what escaping did.
-/

namespace WildcardDiff
namespace Escape

variable {mark : Char} {keep text : Text}

/-- Whether a character is kept although it has a meaning of its own. -/
def IsKept (keep : Text) (char : Char) : Prop :=
  isMeta char = true ∧ char ∈ keep

/-- Whether a character may follow another one in a text that comes back: a mark is not
followed by a mark or by a character that is kept. -/
def MayPrecede (mark : Char) (keep : Text) (char next : Char) : Prop :=
  char = mark → next ≠ mark ∧ ¬IsKept keep next

/-- What unescaping makes of an escaped text after a mark that is still pending. -/
def undone (mark : Char) (keep : Text) (pending : Option Char) (text : Text) : Text :=
  removeMarks (· = mark) isMeta pending (escape mark keep text)

/-! ## One character -/

/-- A mark of the text that nothing precedes is pending. -/
theorem undone_none_mark (neutral : isMeta mark = false) (text : Text) :
    undone mark keep none (mark :: text) = undone mark keep (some mark) text := by
  simp [undone, escape_keep_cons, neutral, removeMarks]

/-- Of two marks in a row one is lost. -/
theorem undone_some_mark (neutral : isMeta mark = false) (text : Text) :
    undone mark keep (some mark) (mark :: text) = mark :: undone mark keep none text := by
  simp [undone, escape_keep_cons, neutral, removeMarks]

/-- A character that is kept takes a mark before it away. -/
theorem undone_kept
    {char : Char}
    (other : char ≠ mark)
    (kept : IsKept keep char)
    (pending : Option Char)
    (text : Text) :
    undone mark keep pending (char :: text) = char :: undone mark keep none text := by
  simp [undone, escape_keep_cons, kept.1, kept.2, removeMarks, other]

/-- Any other character stays, and so does a mark before it. -/
theorem undone_stays
    {char : Char}
    (other : char ≠ mark)
    (free : ¬IsKept keep char)
    {pending : Option Char}
    (isPending : pending = none ∨ pending = some mark)
    (text : Text) :
    undone mark keep pending (char :: text) =
      pending.toList ++ char :: undone mark keep none text := by
  cases meaning : isMeta char with
  | false =>
      simp [undone, escape_keep_cons, meaning, removeMarks, other]
  | true =>
      have absent : char ∉ keep := fun listed => free ⟨meaning, listed⟩
      rcases isPending with rfl | rfl
      · simp [undone, escape_keep_cons, meaning, absent, removeMarks, other]
      · simp [undone, escape_keep_cons, meaning, absent, removeMarks, other]

/-! ## Whole texts -/

/-- Nothing is added by escaping and unescaping. -/
theorem length_undone_le
    (neutral : isMeta mark = false)
    (keep text : Text)
    {pending : Option Char}
    (isPending : pending = none ∨ pending = some mark) :
    (undone mark keep pending text).length ≤ pending.toList.length + text.length := by
  induction text generalizing pending with
  | nil => exact Nat.le_refl _
  | cons char text inductionHypothesis =>
      have following := inductionHypothesis (.inl rfl)
      rw [Option.toList_none, List.length_nil, Nat.zero_add] at following
      rw [List.length_cons]
      by_cases same : char = mark
      · subst same
        rcases isPending with rfl | rfl
        · have rest := inductionHypothesis (.inr rfl)
          rw [Option.toList_some, List.length_singleton] at rest
          rw [undone_none_mark neutral, Option.toList_none, List.length_nil]
          omega
        · rw [undone_some_mark neutral, List.length_cons]
          omega
      · by_cases kept : IsKept keep char
        · rw [undone_kept same kept, List.length_cons]
          omega
        · rw [undone_stays same kept isPending, List.length_append, List.length_cons]
          omega

/-- A character that is no mark may be followed by anything. -/
theorem isChain_mayPrecede_cons_iff {char : Char} (other : char ≠ mark) :
    (char :: text).IsChain (MayPrecede mark keep) ↔
      text.IsChain (MayPrecede mark keep) := by
  rw [List.isChain_cons]
  exact and_iff_right fun _ _ same => absurd same other

/-- A text comes back exactly if no mark loses what follows it, also after a mark that
is still pending. -/
theorem undone_eq_iff (neutral : isMeta mark = false) (keep text : Text) :
    (undone mark keep none text = text ↔ text.IsChain (MayPrecede mark keep)) ∧
      (undone mark keep (some mark) text = mark :: text ↔
        (mark :: text).IsChain (MayPrecede mark keep)) := by
  induction text with
  | nil => exact ⟨iff_of_true rfl .nil, iff_of_true rfl (.singleton mark)⟩
  | cons char text inductionHypothesis =>
      obtain ⟨alone, marked⟩ := inductionHypothesis
      rw [List.isChain_cons_cons]
      by_cases same : char = mark
      · subst same
        refine ⟨?_, iff_of_false ?_ ?_⟩
        · rw [undone_none_mark neutral, marked]
        · -- The text that comes back is too short.
          rw [undone_some_mark neutral]
          intro equal
          have short := length_undone_le neutral keep text (.inl rfl)
          have full := congrArg List.length equal
          simp only [List.length_cons, Option.toList_none, List.length_nil] at short full
          omega
        · rintro ⟨allowed, -⟩
          exact (allowed rfl).1 rfl
      · rw [isChain_mayPrecede_cons_iff same, ← alone]
        by_cases kept : IsKept keep char
        · rw [undone_kept same kept, undone_kept same kept]
          refine ⟨List.cons_inj_right char, iff_of_false ?_ ?_⟩
          · intro equal
            exact same (List.cons.inj equal).1
          · rintro ⟨allowed, -⟩
            exact (allowed rfl).2 kept
        · have allowed : MayPrecede mark keep mark char := fun _ => ⟨same, kept⟩
          rw [undone_stays same kept (.inl rfl), undone_stays same kept (.inr rfl)]
          simp [allowed]

/-- Unescaping gives a text back from its escaped form exactly if no mark in it is
followed by a mark or by a character that has a meaning of its own and is kept. -/
theorem unescape_escape_eq_iff
    (mark : Char)
    (neutral : isMeta mark = false)
    (keep text : Text) :
    unescape mark (escape mark keep text) = text ↔
      ∀ front next back, text = front ++ mark :: next :: back →
        next ≠ mark ∧ ¬(isMeta next = true ∧ next ∈ keep) := by
  change undone mark keep none text = text ↔ _
  rw [(undone_eq_iff neutral keep text).1,
    List.isChain_iff_forall_rel_of_append_cons_cons]
  constructor
  · intro allowed front next back split
    exact allowed split rfl
  · rintro allowed char next front back split rfl
    exact allowed front next back split

/-- A mark before a star comes back if the star is escaped, and is lost if the star is
kept. -/
theorem unescape_escape_eq_iff_example :
    isMeta '\\' = false ∧
      (∀ front next back, "a\\*b?\\".toList = front ++ '\\' :: next :: back →
        next ≠ '\\' ∧ ¬(isMeta next = true ∧ next ∈ "?".toList)) ∧
      unescape '\\' (escape '\\' "*".toList "a\\*b?\\".toList) ≠ "a\\*b?\\".toList := by
  refine ⟨by decide, (unescape_escape_eq_iff '\\' (by decide) _ _).mp (by decide), ?_⟩
  intro same
  have allowed := (unescape_escape_eq_iff '\\' (by decide) _ _).mp same ['a'] '*' _ rfl
  exact allowed.2 ⟨by decide, by decide⟩

end Escape
end WildcardDiff
