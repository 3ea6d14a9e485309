import WildcardDiff.Proofs.Text.Case
import WildcardDiff.Regex.Basic

/-!
# Same letters

To be the same letter is an equivalence of characters, and it is coarser than each of
the ways in which a pattern ignores letter case: a character is the same letter as its
lower case, its upper case and its case folding, as far as these are single characters,
and characters with the same lower case or the same case folding are the same letter.
-/

namespace WildcardDiff
namespace Letter

open Case CaseTable

/-- Whether two small letters are equal or lie in one class. -/
def Kin (left right : Char) : Prop :=
  left = right ∨ ∃ letters ∈ classes, left ∈ letters ∧ right ∈ letters

/-- No small letter lies in two classes. -/
theorem class_unique :
    ∀ left ∈ classes, ∀ right ∈ classes, ∀ char ∈ left, char ∈ right -> left = right := by
  have checked : (classes.all fun left => classes.all fun right =>
      left.all fun char => !right.contains char || left == right) = true := by
    decide +kernel
  intro left leftListed right rightListed char inLeft inRight
  simp only [List.all_eq_true] at checked
  simpa [inRight] using checked left leftListed right rightListed char inLeft

/-- Classes lie in the basic plane. -/
theorem classes_basic :
    ∀ letters ∈ classes, ∀ char ∈ letters, Regex.isBasic char = true := by
  have checked : (classes.all fun letters => letters.all Regex.isBasic) = true :=
    rfl
  simpa only [List.all_eq_true] using checked

theorem mem_siblings_iff {small other : Char} :
    other ∈ siblings small ↔ Kin small other := by
  unfold siblings Kin
  split
  · rename_i letters found
    have listed := List.mem_of_find?_eq_some found
    have present : small ∈ letters := by simpa using List.find?_some found
    simp only [List.mem_cons, List.mem_filter, decide_eq_true_eq]
    constructor
    · rintro (rfl | ⟨among, -⟩)
      · exact .inl rfl
      · exact .inr ⟨letters, listed, present, among⟩
    · rintro (rfl | ⟨others, known, inOthers, among⟩)
      · exact .inl rfl
      · rw [class_unique letters listed others known small present inOthers]
        by_cases equal : other = small
        · exact .inl equal
        · exact .inr ⟨among, equal⟩
  · rename_i absent
    rw [List.find?_eq_none] at absent
    rw [List.mem_singleton]
    constructor
    · rintro rfl
      exact .inl rfl
    · rintro (rfl | ⟨letters, listed, present, -⟩)
      · rfl
      · exact absurd (by simpa using present) (absent letters listed)

theorem same_iff {left right : Char} :
    same left right = true ↔ Kin (small left) (small right) := by
  unfold same
  rw [List.contains_iff_mem, mem_siblings_iff]

theorem same_of_small_eq {left right : Char} (equal : small left = small right) :
    same left right = true :=
  same_iff.mpr (.inl equal)

@[simp] theorem same_self (char : Char) : same char char = true :=
  same_of_small_eq rfl

theorem same_symm {left right : Char} (alike : same left right = true) :
    same right left = true := by
  rw [same_iff] at alike ⊢
  rcases alike with equal | ⟨letters, listed, inLeft, inRight⟩
  · exact .inl equal.symm
  · exact .inr ⟨letters, listed, inRight, inLeft⟩

theorem same_trans
    {left middle right : Char}
    (first : same left middle = true)
    (second : same middle right = true) :
    same left right = true := by
  rw [same_iff] at first second ⊢
  rcases first with equal | ⟨letters, listed, inLeft, inMiddle⟩
  · rwa [equal]
  · rcases second with equal | ⟨others, known, middleToo, inRight⟩
    · exact .inr ⟨letters, listed, inLeft, equal ▸ inMiddle⟩
    · obtain rfl := class_unique letters listed others known _ inMiddle middleToo
      exact .inr ⟨letters, listed, inLeft, inRight⟩

/-- Above the basic plane only characters with one small letter are the same letter. -/
theorem small_eq_of_same
    {left right : Char}
    (alike : same left right = true)
    (astral : Regex.isBasic (small left) = false) :
    small left = small right := by
  rcases same_iff.mp alike with equal | ⟨letters, listed, inLeft, -⟩
  · exact equal
  · rw [classes_basic letters listed _ inLeft] at astral
    cases astral

/-! ## Variants -/

theorem source?_of_image?
    {run : Run}
    {code moved : Nat}
    (moves : run.image? code = some moved) :
    run.source? moved = some code := by
  obtain ⟨⟨above, below, spaced⟩, rfl⟩ := Run.image?_eq_some_iff.mp moves
  unfold Run.source?
  rw [Nat.add_sub_cancel_left, if_pos ⟨Nat.le_add_right _ _, by omega, spaced⟩,
    Nat.add_sub_cancel' above]

/-- The capitals of a small letter are all characters that have it as their small
letter. -/
theorem mem_capitals_iff {letter char : Char} :
    char ∈ capitals letter ↔ small char = letter := by
  unfold capitals
  simp only [List.mem_filter, decide_eq_true_eq]
  refine and_iff_right_of_imp ?_
  rintro rfl
  by_cases dotted : char = '\u0130'
  · simp [dotted]
  · have leads : small char = mapped lowerRuns char := by
      unfold small lower
      rw [if_neg dotted]
      rfl
    cases moved : runImage? lowerRuns char.toNat with
    | none =>
        have stays : small char = char := by
          rw [leads]
          unfold mapped
          rw [moved]
        simp [stays]
    | some code =>
        obtain ⟨run, listed, moves⟩ := exists_run_of_runImage? moved
        have code_eq : (small char).toNat = code := by
          rw [leads, toNat_mapped (List.all_eq_true.mpr fun other known =>
            List.all_eq_true.mp lands_smallRuns other (List.mem_cons_of_mem _ known))]
          unfold image
          rw [moved]
          rfl
        refine List.mem_cons_of_mem _ (List.mem_cons_of_mem _ ?_)
        rw [List.mem_filterMap]
        refine ⟨run, listed, ?_⟩
        rw [code_eq, source?_of_image? moves, Option.map_some, Char.ofNat_toNat]

/-- The variants of a character are all characters that are the same letter. -/
theorem mem_variants_iff {char variant : Char} :
    variant ∈ variants char ↔ same char variant = true := by
  unfold variants
  simp only [List.mem_flatMap, mem_siblings_iff, mem_capitals_iff, same_iff]
  constructor
  · rintro ⟨letter, kin, rfl⟩
    exact kin
  · intro kin
    exact ⟨_, kin, rfl⟩

/-! ## Letters of code points -/

/-- Whether the small letters of two code points are equal or lie in one class. -/
def twins (left right : Nat) : Bool :=
  Nat.beq (image smallRuns left) (image smallRuns right) ||
    classes.any fun letters =>
      (letters.any fun letter => Nat.beq letter.toNat (image smallRuns left)) &&
        letters.any fun letter => Nat.beq letter.toNat (image smallRuns right)

theorem same_of_twins {left right : Char} (alike : twins left.toNat right.toNat = true) :
    same left right = true := by
  rw [same_iff]
  unfold twins at alike
  simp only [← toNat_small, Bool.or_eq_true, List.any_eq_true, Bool.and_eq_true,
    Nat.beq_eq, Char.toNat_inj] at alike
  rcases alike with equal | ⟨letters, listed, ⟨_, inLeft, rfl⟩, ⟨_, inRight, rfl⟩⟩
  · exact .inl equal
  · exact .inr ⟨letters, listed, inLeft, inRight⟩

/-- Whether a run moves every code point to the same letter: it leaves them where they
are, or their small letters lead back, or it holds at most two and each is looked at. -/
def keepsLetters (run : Run) : Bool :=
  Nat.beq run.target run.first || follows smallRuns run.inverse ||
    (Nat.ble run.last (run.first + 1) && twins run.first run.target &&
      twins run.last (run.target + (run.last - run.first)))

theorem upperRuns_keep : upperRuns.all keepsLetters = true := by decide +kernel

theorem foldRuns_keep : foldRuns.all keepsLetters = true := by decide +kernel

theorem same_of_keepsLetters
    {run : Run}
    {char moved : Char}
    (keeps : keepsLetters run = true)
    (moves : run.image? char.toNat = some moved.toNat) :
    same char moved = true := by
  obtain ⟨⟨above, below, spaced⟩, landed⟩ := Run.image?_eq_some_iff.mp moves
  simp only [keepsLetters, Bool.or_eq_true, Bool.and_eq_true, Nat.beq_eq, Nat.ble_eq]
    at keeps
  rcases keeps with (stays | leadsBack) | ⟨⟨short, first⟩, last⟩
  · have equal : char = moved := Char.toNat_inj.mp (by omega)
    rw [equal, same_self]
  · apply same_of_small_eq
    have back : small moved = char := by
      apply Char.toNat_inj.mp
      rw [toNat_small, image_small_of_follows leadsBack moves]
    rw [← back, small_small]
  · apply same_of_twins
    rw [landed]
    rcases Nat.eq_or_lt_of_le above with equal | later
    · rw [← equal, Nat.sub_self, Nat.add_zero]
      exact first
    · have equal : char.toNat = run.last := by omega
      rw [equal]
      exact last

/-! ## Letter case -/

theorem same_small (char : Char) : same char (small char) = true :=
  same_of_small_eq (small_small char).symm

theorem same_of_lower {char single : Char} (lowered : lower char = [single]) :
    same char single = true := by
  rw [small_of_lower lowered]
  exact same_small char

theorem same_of_upper {char single : Char} (raised : upper char = [single]) :
    same char single = true := by
  rcases exists_run_of_upper raised with rfl | ⟨run, listed, moves⟩
  · exact same_self _
  · exact same_of_keepsLetters (List.all_eq_true.mp upperRuns_keep run listed) moves

theorem same_of_lower_eq {left right : Char} (equal : lower left = lower right) :
    same left right = true := by
  obtain ⟨leftRest, leftLowered⟩ := lower_eq_cons left
  obtain ⟨rightRest, rightLowered⟩ := lower_eq_cons right
  rw [leftLowered, rightLowered] at equal
  exact same_of_small_eq (List.cons.inj equal).1

/-- Characters with a case folding of the same several characters are the same letter. -/
theorem longFolds_keep :
    (longFolds.all fun left => longFolds.all fun right =>
      Nat.beq left.1 right.1 || left.2 != right.2 || twins left.1 right.1) = true := by
  decide +kernel

theorem length_ne_one_of_longFolds
    {entry : Nat × List Nat}
    {single : Char}
    (listed : entry ∈ longFolds) :
    entry.2.map Char.ofNat ≠ [single] := by
  intro equal
  have long := List.all_eq_true.mp longFolds_long entry listed
  rw [Bool.and_eq_true, Nat.ble_eq] at long
  have lengths := congrArg List.length equal
  rw [List.length_map, List.length_singleton] at lengths
  omega

theorem same_of_fold {char single : Char} (folded : fold char = [single]) :
    same char single = true := by
  rcases fold_cases char with ⟨codes, listed, equal⟩ | ⟨other, equal, known⟩
  · exact absurd (equal.symm.trans folded) (length_ne_one_of_longFolds listed)
  · obtain rfl := List.singleton_inj.mp (equal.symm.trans folded)
    rcases known with rfl | ⟨run, listed, moves⟩
    · exact same_small char
    · exact same_of_keepsLetters (List.all_eq_true.mp foldRuns_keep run listed) moves

theorem same_of_fold_eq {left right : Char} (equal : fold left = fold right) :
    same left right = true := by
  rcases fold_cases left
    with ⟨leftCodes, leftListed, leftFolded⟩ | ⟨single, leftFolded, -⟩
  · rcases fold_cases right
      with ⟨rightCodes, rightListed, rightFolded⟩ | ⟨single, rightFolded, -⟩
    · have sameCodes : leftCodes = rightCodes :=
        codes_eq_of_map_eq leftListed rightListed
          (leftFolded.symm.trans (equal.trans rightFolded))
      have kept := List.all_eq_true.mp
        (List.all_eq_true.mp longFolds_keep _ leftListed) _ rightListed
      simp only [Bool.or_eq_true, Nat.beq_eq, bne_iff_ne, ne_eq] at kept
      rcases kept with (equalCode | apart) | alike
      · rw [Char.toNat_inj.mp equalCode, same_self]
      · exact absurd sameCodes apart
      · exact same_of_twins alike
    · exact absurd (leftFolded.symm.trans (equal.trans rightFolded))
        (length_ne_one_of_longFolds leftListed)
  · exact same_trans (same_of_fold leftFolded)
      (same_symm (same_of_fold (equal ▸ leftFolded)))

end Letter
end WildcardDiff
