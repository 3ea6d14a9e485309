import WildcardDiff.Proofs.Text.CaseRuns

/-!
# Small and capital letters

The small letter of a character has no other small letter. Above the basic plane there are
only small letters and their capitals, each of which has the other as its other case.
-/

namespace WildcardDiff

namespace CaseTable

/-- The runs that lead from characters to their small letters. The dotted capital i, whose
lower case has two characters, is one of its own. -/
def smallRuns : List Run :=
  ⟨304, 304, 1, 105⟩ :: lowerRuns

/-- Whether all images of a run are characters. -/
def Run.lands (run : Run) : Bool :=
  Nat.blt (run.target + (run.last - run.first)) 0xd800 ||
    (Nat.blt 0xdfff run.target && Nat.blt (run.target + (run.last - run.first)) 0x110000)

section

-- The tables are long lists, which are gone through to their ends.
set_option maxRecDepth 4000

theorem lands_smallRuns : smallRuns.all Run.lands = true := rfl

theorem lands_upperRuns : upperRuns.all Run.lands = true := rfl

theorem lands_foldRuns : foldRuns.all Run.lands = true := rfl

theorem Run.isValidChar_of_lands
    {run : Run}
    {code image : Nat}
    (lands : run.lands = true)
    (moved : run.image? code = some image) :
    image.isValidChar := by
  obtain ⟨⟨above, below, -⟩, rfl⟩ := image?_eq_some_iff.mp moved
  simp only [Run.lands, Bool.or_eq_true, Bool.and_eq_true, Nat.blt_eq] at lands
  unfold Nat.isValidChar
  omega

/-- No image under a run of small letters is moved once more. -/
theorem shuns_inverse :
    (smallRuns.all fun run => shuns smallRuns run.inverse) = true := by
  decide +kernel

/-- Above the basic plane upper case leads back from small letters. -/
theorem small_astral :
    (smallRuns.all fun run =>
      Nat.blt run.last 0x10000 ||
        (Nat.ble 0x10000 run.target && follows upperRuns run.inverse)) = true :=
  rfl

/-- Above the basic plane small letters lead back from upper case. -/
theorem upper_astral :
    (upperRuns.all fun run =>
      Nat.blt (run.target + (run.last - run.first)) 0x10000 ||
        (Nat.ble 0x10000 run.first && follows smallRuns run.inverse)) = true :=
  rfl

/-- Only characters of the basic plane have several characters as their upper case. -/
theorem upperSequences_basic :
    (upperSequences.all fun entry =>
      Nat.blt entry.1 0x10000 && Nat.ble 2 entry.2.length) = true :=
  rfl

/-- The characters whose case folding is several characters, the dotted capital i among
them. -/
def longFolds : List (Nat × List Nat) :=
  (304, [105, 775]) :: foldSequences

theorem longFolds_long :
    (longFolds.all fun entry =>
      Nat.ble 2 entry.2.length && entry.2.all fun code => Nat.blt code 0xd800) =
        true :=
  rfl

end

end CaseTable

namespace Case

open CaseTable

theorem toNat_ofNat {code : Nat} (valid : code.isValidChar) :
    (Char.ofNat code).toNat = code := by
  have character : Char.ofNat code = Char.ofNatAux code valid := dif_pos valid
  rw [character]
  rfl

/-- Where a table of runs moves a code point, which may stay where it is. -/
def image (runs : List Run) (code : Nat) : Nat :=
  (runImage? runs code).getD code

theorem toNat_mapped
    {runs : List Run}
    (lands : runs.all Run.lands = true)
    (char : Char) :
    (mapped runs char).toNat = image runs char.toNat := by
  unfold mapped image
  cases moved : runImage? runs char.toNat with
  | none => rfl
  | some code =>
      obtain ⟨run, listed, moved⟩ := exists_run_of_runImage? moved
      exact toNat_ofNat
        (Run.isValidChar_of_lands (List.all_eq_true.mp lands run listed) moved)

theorem mem_of_lookup
    {table : List (Nat × List Nat)}
    {code : Nat}
    {codes : List Nat}
    (found : table.lookup code = some codes) :
    (code, codes) ∈ table := by
  obtain ⟨before, after, rfl, -⟩ := List.lookup_eq_some_iff.mp found
  simp

/-! ## Small letters -/

theorem small_eq_mapped (char : Char) : small char = mapped smallRuns char := by
  unfold small lower mapped smallRuns
  rw [runImage?_cons]
  by_cases dotted : char = '\u0130'
  · have moved : (⟨304, 304, 1, 105⟩ : Run).image? char.toNat = some 105 := by
      rw [dotted]
      rfl
    rw [if_pos dotted, moved]
    rfl
  · have other : ¬ (⟨304, 304, 1, 105⟩ : Run).Holds char.toNat := by
      intro holds
      have code : char.toNat = 304 := Nat.le_antisymm holds.2.1 holds.1
      exact dotted (Char.toNat_inj.mp code)
    rw [if_neg dotted, Run.image?_eq_none_iff.mpr other, Option.none_or]
    rfl

theorem toNat_small (char : Char) : (small char).toNat = image smallRuns char.toNat := by
  rw [small_eq_mapped, toNat_mapped lands_smallRuns]

theorem lower_eq {char : Char} (plain : char ≠ '\u0130') : lower char = [small char] := by
  unfold small lower
  rw [if_neg plain]
  rfl

theorem image_small_of_moved
    {code moved : Nat}
    (leads : runImage? smallRuns code = some moved) :
    image smallRuns moved = moved := by
  obtain ⟨run, listed, moves⟩ := exists_run_of_runImage? leads
  have shuns := List.all_eq_true.mp shuns_inverse run listed
  have held := (Run.image?_eq_some_iff.mp (Run.inverse_image? moves)).1
  unfold image
  rw [runImage?_of_shuns shuns held]
  rfl

theorem image_small_image (code : Nat) :
    image smallRuns (image smallRuns code) = image smallRuns code := by
  cases leads : runImage? smallRuns code with
  | none =>
      have stays : image smallRuns code = code := by
        unfold image
        rw [leads]
        rfl
      rw [stays, stays]
  | some moved =>
      have moves : image smallRuns code = moved := by
        unfold image
        rw [leads]
        rfl
      rw [moves]
      exact image_small_of_moved leads

/-- The small letter of a small letter is itself. -/
@[simp] theorem small_small (char : Char) : small (small char) = small char := by
  apply Char.toNat_inj.mp
  rw [toNat_small, toNat_small, image_small_image]

/-- If small letters lead back from a run, a code point of the run is a small letter. -/
theorem image_small_of_follows
    {run : Run}
    {code moved : Nat}
    (follows : follows smallRuns run.inverse = true)
    (moves : run.image? code = some moved) :
    image smallRuns moved = code := by
  unfold image
  rw [runImage?_of_follows follows (Run.inverse_image? moves)]
  rfl

theorem lower_eq_cons (char : Char) : ∃ rest, lower char = small char :: rest := by
  by_cases dotted : char = '\u0130'
  · rw [dotted]
    exact ⟨['\u0307'], rfl⟩
  · exact ⟨[], lower_eq dotted⟩

theorem small_of_lower {char single : Char} (lowered : lower char = [single]) :
    single = small char := by
  unfold small
  rw [lowered]
  rfl

/-! ## Upper case and case folding of one character -/

theorem upper_eq {char single : Char} (raised : upper char = [single]) :
    upperSequences.lookup char.toNat = none ∧ single = mapped upperRuns char := by
  unfold upper at raised
  split at raised
  · rename_i codes found
    have listed := List.all_eq_true.mp upperSequences_basic _ (mem_of_lookup found)
    rw [Bool.and_eq_true, Nat.ble_eq] at listed
    have long : 2 ≤ codes.length := listed.2
    have lengths := congrArg List.length raised
    rw [List.length_map, List.length_singleton] at lengths
    omega
  · rename_i absent
    exact ⟨absent, (List.singleton_inj.mp raised).symm⟩

theorem upper_of_not_basic {char : Char} (astral : 0x10000 ≤ char.toNat) :
    upper char = [mapped upperRuns char] := by
  have absent : upperSequences.lookup char.toNat = none := by
    rw [List.lookup_eq_none_iff]
    intro entry listed
    have basic := List.all_eq_true.mp upperSequences_basic entry listed
    rw [Bool.and_eq_true, Nat.blt_eq] at basic
    rw [bne_iff_ne]
    omega
  unfold upper
  rw [absent]

theorem capital_of_upper {char single : Char} (raised : upper char = [single]) :
    capital char = single := by
  unfold capital
  rw [raised]
  rfl

/-- A case folding of several characters is listed, one of a single character is listed
or is the small letter. -/
theorem fold_cases (char : Char) :
    (∃ codes, (char.toNat, codes) ∈ longFolds ∧ fold char = codes.map Char.ofNat) ∨
      ∃ single, fold char = [single] ∧
        (single = small char ∨ ∃ run ∈ foldRuns,
          run.image? char.toNat = some single.toNat) := by
  unfold fold
  split
  · rename_i codes found
    exact .inl ⟨codes, List.mem_cons_of_mem _ (mem_of_lookup found), rfl⟩
  · split
    · rename_i code moved
      obtain ⟨run, listed, moves⟩ := exists_run_of_runImage? moved
      have valid :=
        Run.isValidChar_of_lands (List.all_eq_true.mp lands_foldRuns run listed) moves
      refine .inr ⟨_, rfl, .inr ⟨run, listed, ?_⟩⟩
      rw [toNat_ofNat valid]
      exact moves
    · by_cases dotted : char = '\u0130'
      · refine .inl ⟨[105, 775], ?_, ?_⟩
        · rw [dotted]
          exact List.mem_cons_self
        · rw [dotted]
          rfl
      · exact .inr ⟨_, lower_eq dotted, .inl rfl⟩

/-- Case foldings of several characters are equal only if their codes are. -/
theorem codes_eq_of_map_eq
    {left right : Nat × List Nat}
    (leftListed : left ∈ longFolds)
    (rightListed : right ∈ longFolds)
    (equal : left.2.map Char.ofNat = right.2.map Char.ofNat) :
    left.2 = right.2 := by
  have restore : ∀ entry ∈ longFolds,
      (entry.2.map Char.ofNat).map Char.toNat = entry.2 := by
    intro entry listed
    have known := List.all_eq_true.mp longFolds_long entry listed
    rw [Bool.and_eq_true, List.all_eq_true] at known
    rw [List.map_map]
    refine (List.map_congr_left ?_).trans (List.map_id _)
    intro code present
    exact toNat_ofNat (.inl (Nat.blt_eq.mp (known.2 code present)))
  rw [← restore left leftListed, ← restore right rightListed, equal]

/-- An upper case of one character is the character, or the image under a run. -/
theorem exists_run_of_upper {char single : Char} (raised : upper char = [single]) :
    single = char ∨ ∃ run ∈ upperRuns, run.image? char.toNat = some single.toNat := by
  obtain ⟨-, rfl⟩ := upper_eq raised
  cases moved : runImage? upperRuns char.toNat with
  | none =>
      left
      unfold mapped
      rw [moved]
  | some code =>
      obtain ⟨run, listed, moves⟩ := exists_run_of_runImage? moved
      refine .inr ⟨run, listed, ?_⟩
      rw [toNat_mapped lands_upperRuns]
      unfold image
      rw [moved]
      exact moves

/-! ## Above the basic plane -/

/-- Above the basic plane a character is a small letter, or the capital of its small
letter. -/
theorem eq_small_or_capital {char : Char} (astral : 0x10000 ≤ char.toNat) :
    char = small char ∨ char = capital (small char) := by
  cases moved : runImage? smallRuns char.toNat with
  | none =>
      left
      apply Char.toNat_inj.mp
      rw [toNat_small]
      unfold image
      rw [moved]
      rfl
  | some code =>
      right
      obtain ⟨run, listed, moves⟩ := exists_run_of_runImage? moved
      obtain ⟨⟨above, below, -⟩, landed⟩ := Run.image?_eq_some_iff.mp moves
      have checked := List.all_eq_true.mp small_astral run listed
      simp only [Bool.or_eq_true, Bool.and_eq_true, Nat.blt_eq, Nat.ble_eq] at checked
      rcases checked with basic | ⟨target, leadsBack⟩
      · omega
      · have code_eq : (small char).toNat = code := by
          rw [toNat_small]
          unfold image
          rw [moved]
          rfl
        have raised : upper (small char) = [mapped upperRuns (small char)] :=
          upper_of_not_basic (by omega)
        rw [capital_of_upper raised]
        apply Char.toNat_inj.mp
        rw [toNat_mapped lands_upperRuns, code_eq]
        unfold image
        rw [runImage?_of_follows leadsBack (Run.inverse_image? moves)]
        rfl

/-- Above the basic plane the characters that stand for a character in a set are its small
letter and the capital of that. -/
theorem eq_small_or_capital_of_upper
    {char single : Char}
    (raised : upper char = [single])
    (astral : 0x10000 ≤ single.toNat) :
    single = small char ∨ single = capital (small char) := by
  rcases exists_run_of_upper raised with rfl | ⟨run, listed, moves⟩
  · exact eq_small_or_capital astral
  · right
    obtain ⟨⟨above, below, -⟩, landed⟩ := Run.image?_eq_some_iff.mp moves
    have checked := List.all_eq_true.mp upper_astral run listed
    simp only [Bool.or_eq_true, Bool.and_eq_true, Nat.blt_eq, Nat.ble_eq] at checked
    rcases checked with basic | ⟨first, leadsBack⟩
    · omega
    · have single_small : small single = char := by
        apply Char.toNat_inj.mp
        rw [toNat_small, image_small_of_follows leadsBack moves]
      have char_small : small char = char := by rw [← single_small, small_small]
      rw [char_small, capital_of_upper raised]

end Case
end WildcardDiff
