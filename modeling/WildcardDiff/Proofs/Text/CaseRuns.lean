import WildcardDiff.Text.Case

/-!
# Runs against tables

What a table of runs makes of all code points of one run can be seen from the ends of
the runs. A run that avoids another holds none of its code points, and a table that
follows a run moves its code points as the run itself does. Whole tables are compared in
this way, run by run and without a look at the single characters.
-/

namespace WildcardDiff
namespace CaseTable

namespace Run

/-- Whether a run holds a code point. -/
def Holds (run : Run) (code : Nat) : Prop :=
  run.first ≤ code ∧ code ≤ run.last ∧ (code - run.first) % run.step = 0

/-- The run that moves the images back. -/
def inverse (run : Run) : Run :=
  ⟨run.target, run.target + (run.last - run.first), run.step, run.first⟩

/-- Whether all code points of a run have the parity of the first. -/
def alternates (run : Run) : Bool :=
  Nat.beq run.step 2 || Nat.beq run.first run.last

/-- Whether two runs lie apart, or hold every other code point by turns. -/
def avoids (run other : Run) : Bool :=
  Nat.blt run.last other.first || Nat.blt other.last run.first ||
    (run.alternates && other.alternates && Nat.beq ((run.first + other.first) % 2) 1)

/-- Whether a run holds the ends of another one, and its step leads from the one to the
other. -/
def covers (run other : Run) : Bool :=
  Nat.ble run.first other.first && Nat.ble other.last run.last &&
    (Nat.beq run.step 1 || Nat.beq run.step other.step) &&
    Nat.beq ((other.first - run.first) % run.step) 0

/-- Whether two runs move their code points by the same distance. -/
def agrees (run other : Run) : Bool :=
  Nat.beq (run.target + other.first) (other.target + run.first)

theorem image?_eq_some_iff {run : Run} {code image : Nat} :
    run.image? code = some image ↔
      run.Holds code ∧ image = run.target + (code - run.first) := by
  unfold image? Holds
  split
  · rename_i holds
    rw [Option.some.injEq, eq_comm]
    exact (and_iff_right holds).symm
  · rename_i outside
    simp [outside]

theorem image?_eq_none_iff {run : Run} {code : Nat} :
    run.image? code = none ↔ ¬ run.Holds code := by
  simp [image?, Holds]

/-- The inverse of a run holds its images. -/
theorem inverse_image?
    {run : Run}
    {code image : Nat}
    (moved : run.image? code = some image) :
    run.inverse.image? image = some code := by
  obtain ⟨⟨above, below, spaced⟩, rfl⟩ := image?_eq_some_iff.mp moved
  refine image?_eq_some_iff.mpr ⟨⟨?_, ?_, ?_⟩, ?_⟩
  · simp [inverse]
  · simp only [inverse]
    omega
  · simpa [inverse] using spaced
  · simp only [inverse]
    omega

theorem parity_of_alternates
    {run : Run}
    {code : Nat}
    (alternates : run.alternates = true)
    (holds : run.Holds code) :
    code % 2 = run.first % 2 := by
  obtain ⟨above, below, spaced⟩ := holds
  simp only [Run.alternates, Bool.or_eq_true, Nat.beq_eq] at alternates
  rcases alternates with two | single
  · rw [two] at spaced
    omega
  · omega

theorem not_holds_of_avoids
    {run other : Run}
    {code : Nat}
    (avoids : run.avoids other = true)
    (held : other.Holds code) :
    ¬ run.Holds code := by
  intro holds
  simp only [Run.avoids, Bool.or_eq_true, Bool.and_eq_true, Nat.blt_eq, Nat.beq_eq]
    at avoids
  rcases avoids with (before | after) | ⟨⟨left, right⟩, turns⟩
  · exact absurd (Nat.lt_of_le_of_lt holds.2.1 before) (Nat.not_lt.mpr held.1)
  · exact absurd (Nat.lt_of_le_of_lt held.2.1 after) (Nat.not_lt.mpr holds.1)
  · have sameParity : run.first % 2 = other.first % 2 :=
      (parity_of_alternates left holds).symm.trans (parity_of_alternates right held)
    omega

theorem holds_of_covers
    {run other : Run}
    {code : Nat}
    (covers : run.covers other = true)
    (held : other.Holds code) :
    run.Holds code := by
  obtain ⟨above, below, spaced⟩ := held
  simp only [Run.covers, Bool.or_eq_true, Bool.and_eq_true, Nat.ble_eq, Nat.beq_eq]
    at covers
  obtain ⟨⟨⟨first, last⟩, steps⟩, aligned⟩ := covers
  refine ⟨Nat.le_trans first above, Nat.le_trans below last, ?_⟩
  rcases steps with one | equal
  · rw [one, Nat.mod_one]
  · have split : code - run.first =
      (code - other.first) + (other.first - run.first) := by omega
    rw [split, Nat.add_mod, aligned, equal, spaced]
    simp

/-- A run that agrees with another one moves what both hold to the same place. -/
theorem image?_of_agrees
    {run other : Run}
    {code image : Nat}
    (agrees : run.agrees other = true)
    (moved : other.image? code = some image)
    (holds : run.Holds code) :
    run.image? code = some image := by
  obtain ⟨held, rfl⟩ := image?_eq_some_iff.mp moved
  refine image?_eq_some_iff.mpr ⟨holds, ?_⟩
  have distance : run.target + other.first = other.target + run.first :=
    Nat.eq_of_beq_eq_true agrees
  have above := held.1
  have alsoAbove := holds.1
  omega

end Run

/-! ## Tables -/

/-- Whether no run of a table holds a code point of a run. -/
def shuns (runs : List Run) (part : Run) : Bool :=
  runs.all fun run => run.avoids part

/-- Whether a table moves all code points of a run as the run does: past runs that avoid
it, and runs that hold some of them and agree with it, there is one that holds all. -/
def follows : List Run -> Run -> Bool
  | [], _ => false
  | run :: runs, part =>
      if run.avoids part then follows runs part
      else run.agrees part && (run.covers part || follows runs part)

end CaseTable

namespace Case

open CaseTable

theorem runImage?_cons (run : Run) (runs : List Run) (code : Nat) :
    runImage? (run :: runs) code = (run.image? code).or (runImage? runs code) := by
  unfold runImage?
  rw [List.findSome?_cons]
  cases run.image? code <;> rfl

/-- The image under a table is the image under one of its runs. -/
theorem exists_run_of_runImage?
    {runs : List Run}
    {code image : Nat}
    (moved : runImage? runs code = some image) :
    ∃ run ∈ runs, run.image? code = some image :=
  List.exists_of_findSome?_eq_some moved

theorem runImage?_of_shuns
    {runs : List Run}
    {part : Run}
    {code : Nat}
    (shuns : shuns runs part = true)
    (held : part.Holds code) :
    runImage? runs code = none := by
  unfold runImage?
  rw [List.findSome?_eq_none_iff]
  intro run listed
  apply Run.image?_eq_none_iff.mpr
  exact Run.not_holds_of_avoids (List.all_eq_true.mp shuns run listed) held

theorem runImage?_of_follows
    {runs : List Run}
    {part : Run}
    {code image : Nat}
    (follows : follows runs part = true)
    (moved : part.image? code = some image) :
    runImage? runs code = some image := by
  have held := (Run.image?_eq_some_iff.mp moved).1
  induction runs with
  | nil => cases follows
  | cons run runs inductionHypothesis =>
      rw [runImage?_cons]
      unfold CaseTable.follows at follows
      by_cases holds : run.Holds code
      · split at follows
        · rename_i avoids
          exact absurd holds (Run.not_holds_of_avoids avoids held)
        · rw [Bool.and_eq_true] at follows
          rw [Run.image?_of_agrees follows.1 moved holds]
          rfl
      · rw [Run.image?_eq_none_iff.mpr holds, Option.none_or]
        split at follows
        · exact inductionHypothesis follows
        · rw [Bool.and_eq_true, Bool.or_eq_true] at follows
          rcases follows.2 with covers | later
          · exact absurd (Run.holds_of_covers covers held) holds
          · exact inductionHypothesis later

end Case
end WildcardDiff
