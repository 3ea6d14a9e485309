import WildcardDiff.Proofs.Text.Case

/-!
# Case folding and lower case

Case folding goes at least as far as lower case: characters of the same lower case have
the same case folding. The tables show it run by run. Where a run leads from capitals to
their small letters, case folding lists both or neither among the characters that it
sends to several ones, and otherwise leaves both to their lower case, or sends both to
the capital.
-/

namespace WildcardDiff

namespace CaseTable

/-- Whether the table of case folding moves neither the code points of a run nor their
images, or leads both to the code points. -/
def foldsAlike (run : Run) : Bool :=
  (shuns foldRuns run && shuns foldRuns run.inverse) ||
    (follows foldRuns { run with target := run.first } && follows foldRuns run.inverse)

theorem lowerRuns_foldsAlike : lowerRuns.all foldsAlike = true := by decide +kernel

/-- Whether a run leads all code points that case folding lists with several characters
to code points that it lists with the same. Most code points are seen to be outside of
the run at once. -/
def keepsSequences (run : Run) : Bool :=
  foldSequences.all fun entry =>
    Nat.blt entry.1 run.first || Nat.blt run.last entry.1 ||
      (run.image? entry.1).all fun image => foldSequences.lookup image == some entry.2

theorem lowerRuns_keepSequences :
    lowerRuns.all (fun run => keepsSequences run && keepsSequences run.inverse) =
      true := by
  decide +kernel

theorem lookup_image_of_keepsSequences
    {run : Run}
    {code image : Nat}
    {codes : List Nat}
    (keeps : keepsSequences run = true)
    (moves : run.image? code = some image)
    (known : foldSequences.lookup code = some codes) :
    foldSequences.lookup image = some codes := by
  have kept := List.all_eq_true.mp keeps _ (Case.mem_of_lookup known)
  obtain ⟨⟨above, below, -⟩, -⟩ := Run.image?_eq_some_iff.mp moves
  simp only [Bool.or_eq_true, Nat.blt_eq, moves, Option.all_some, beq_iff_eq] at kept
  rcases kept with (before | after) | same
  · exact absurd before (Nat.not_lt.mpr above)
  · exact absurd after (Nat.not_lt.mpr below)
  · exact same

/-- A run moves a code point for which case folding lists several characters to another
one for which it lists the same. -/
theorem lookup_image
    {run : Run}
    {code image : Nat}
    (listed : run ∈ lowerRuns)
    (moves : run.image? code = some image) :
    foldSequences.lookup image = foldSequences.lookup code := by
  obtain ⟨keeps, keepsBack⟩ :=
    Bool.and_eq_true_iff.mp (List.all_eq_true.mp lowerRuns_keepSequences run listed)
  cases known : foldSequences.lookup code with
  | some codes => exact lookup_image_of_keepsSequences keeps moves known
  | none =>
      cases found : foldSequences.lookup image with
      | none => rfl
      | some codes =>
          have back := Run.inverse_image? moves
          rw [lookup_image_of_keepsSequences keepsBack back found] at known
          cases known

end CaseTable

namespace Case

open CaseTable

theorem small_ne_dotted (char : Char) : small char ≠ '\u0130' := by
  intro dotted
  have again := small_small char
  rw [dotted] at again
  exact absurd again (by decide)

/-- A small letter is the only character of its lower case. -/
theorem lower_small (char : Char) : lower (small char) = [small char] := by
  rw [lower_eq (small_ne_dotted char), small_small]

/-- A run that moves a character other than the dotted capital i is one of the table. -/
theorem mem_lowerRuns
    {run : Run}
    {char : Char}
    {code : Nat}
    (plain : char ≠ '\u0130')
    (listed : run ∈ smallRuns)
    (moves : run.image? char.toNat = some code) :
    run ∈ lowerRuns := by
  rcases List.mem_cons.mp listed with rfl | listed
  · obtain ⟨⟨above, below, -⟩, -⟩ := Run.image?_eq_some_iff.mp moves
    have code_eq : char.toNat = 304 := Nat.le_antisymm below above
    exact absurd (Char.toNat_inj.mp code_eq) plain
  · exact listed

/-- Case folding does not tell a character from its small letter. -/
theorem fold_small
    {char : Char}
    (plain : char ≠ '\u0130') :
    fold (small char) = fold char := by
  cases moved : runImage? smallRuns char.toNat with
  | none =>
      have stays : small char = char := by
        apply Char.toNat_inj.mp
        rw [toNat_small, image, moved]
        rfl
      rw [stays]
  | some code =>
      obtain ⟨run, listed, moves⟩ := exists_run_of_runImage? moved
      have known := mem_lowerRuns plain listed moves
      have code_eq : (small char).toNat = code := by
        rw [toNat_small, image, moved]
        rfl
      have back := Run.inverse_image? moves
      have held := (Run.image?_eq_some_iff.mp moves).1
      have heldBack := (Run.image?_eq_some_iff.mp back).1
      have lowered : lower (small char) = lower char := by
        rw [lower_small, lower_eq plain]
      have alike := List.all_eq_true.mp lowerRuns_foldsAlike run known
      unfold fold
      rw [code_eq, lookup_image known moves, lowered]
      rw [foldsAlike, Bool.or_eq_true, Bool.and_eq_true, Bool.and_eq_true] at alike
      rcases alike with ⟨shuns, shunsBack⟩ | ⟨follows, followsBack⟩
      · rw [runImage?_of_shuns shuns held, runImage?_of_shuns shunsBack heldBack]
      · have stays : ({ run with target := run.first } : Run).image? char.toNat =
            some char.toNat :=
          Run.image?_eq_some_iff.mpr ⟨held, (Nat.add_sub_cancel' held.1).symm⟩
        rw [runImage?_of_follows follows stays, runImage?_of_follows followsBack back]

/-- No other character has the lower case of the dotted capital i. -/
theorem eq_dotted_of_lower {char : Char} (lowered : lower char = lower '\u0130') :
    char = '\u0130' := by
  by_cases dotted : char = '\u0130'
  · exact dotted
  · rw [lower_eq dotted] at lowered
    have lengths := congrArg List.length lowered
    have two : (lower '\u0130').length = 2 := rfl
    rw [two, List.length_singleton] at lengths
    omega

/-- Characters of the same lower case have the same case folding. -/
theorem fold_eq_of_lower_eq {left right : Char} (equal : lower left = lower right) :
    fold left = fold right := by
  by_cases leftDotted : left = '\u0130'
  · rw [leftDotted] at equal
    rw [leftDotted, eq_dotted_of_lower equal.symm]
  · by_cases rightDotted : right = '\u0130'
    · rw [rightDotted] at equal
      exact absurd (eq_dotted_of_lower equal) leftDotted
    · rw [lower_eq leftDotted, lower_eq rightDotted] at equal
      rw [← fold_small leftDotted, ← fold_small rightDotted, List.singleton_inj.mp equal]

/-- The sharp s and its capital are folded to two letters, and a Cherokee letter to its
capital. -/
example :
    fold '\u1e9e' = fold 'ß' ∧ fold 'ß' = ['s', 's'] ∧
      fold '\uab70' = fold '\u13a0' ∧ fold '\uab70' = ['\u13a0'] := by
  decide +kernel

end Case
end WildcardDiff
