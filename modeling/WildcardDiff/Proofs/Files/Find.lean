import WildcardDiff.Files.Basic
import WildcardDiff.Proofs.Except
import WildcardDiff.Proofs.Text.Pieces

/-!
# Files that are found

A file that is found under a name is also found under the tidied name. It is still
found, and holds what it held, among other files that keep what stands at all places on
the way.
-/

namespace WildcardDiff
namespace Files

variable {files : Files} {place found written : Place} {file : File} {name : Text}
  {parts : List Text}

/-! ## Finding -/

theorem step_eq_ok_iff {part : Text} :
    files.step place part = .ok found ↔
      files.at? place = some .directory ∧ size part ≤ partLimit ∧
      place.follow part = found := by
  unfold step
  cases standing : files.at? place with
  | none => simp
  | some file =>
      cases file with
      | directory =>
          by_cases long : partLimit < size part
          · simp [long, Nat.not_le_of_lt long]
          · simp [long, Nat.le_of_not_lt long]
      | _ => simp

theorem find_eq_ok_iff :
    files.find name = .ok (found, file) ↔
      '\x00' ∉ name ∧ size name ≤ nameLimit ∧
        (Place.parts name).foldlM files.step (Place.start name) = .ok found ∧
        files.at? found = some file := by
  unfold find
  by_cases zero : '\x00' ∈ name
  · simp [zero]
  · by_cases long : nameLimit < size name
    · simp [zero, long, Nat.not_le_of_lt long]
    · simp only [List.contains_iff_mem, zero, long, if_false, Nat.le_of_not_lt long,
        not_false_eq_true, true_and, bind_eq_ok_iff]
      constructor
      · rintro ⟨place, leads, standing⟩
        split at standing
        · rename_i stands
          obtain ⟨rfl, rfl⟩ := Prod.mk.inj (Except.ok.inj standing)
          exact ⟨leads, stands⟩
        · cases standing
      · rintro ⟨leads, standing⟩
        refine ⟨found, leads, ?_⟩
        rw [standing]
        rfl

/-! ## Tidied names -/

theorem size_cons (char : Char) (text : Text) :
    size (char :: text) = char.utf8Size + size text := by
  unfold size
  rw [String.ofList_cons, String.utf8ByteSize_append, String.utf8ByteSize_singleton]

/-- A text with fewer characters takes no more bytes. -/
theorem size_le_of_sublist
    {part text : Text}
    (within : part.Sublist text) :
    size part ≤ size text := by
  induction within with
  | slnil => exact Nat.le_refl _
  | cons char within inductionHypothesis =>
      rw [size_cons]
      omega
  | cons_cons char within inductionHypothesis =>
      rw [size_cons, size_cons]
      omega

/-- Parts that stay where they are can be left out. -/
theorem foldlM_step_filter
    (leads : parts.foldlM files.step place = .ok found) :
    (parts.filter fun part => !Place.stays part).foldlM files.step place = .ok found := by
  induction parts generalizing place with
  | nil => exact leads
  | cons part parts inductionHypothesis =>
      rw [List.foldlM_cons] at leads
      obtain ⟨next, stepped, leads⟩ := bind_eq_ok_iff.mp leads
      rw [List.filter_cons]
      cases stays : Place.stays part with
      | true =>
          obtain ⟨-, -, rfl⟩ := step_eq_ok_iff.mp stepped
          rw [Place.follow, if_pos stays] at leads
          exact inductionHypothesis leads
      | false =>
          rw [Bool.not_false, if_pos rfl, List.foldlM_cons]
          exact bind_eq_ok_iff.mpr ⟨next, stepped, inductionHypothesis leads⟩

/-- The text that the parts of a text make without those that stay where they are. -/
def moving (text : Text) : Text :=
  Text.join ['/'] ((Place.parts text).filter fun part => !Place.stays part)

theorem moving_sublist (text : Text) : (moving text).Sublist text := by
  have within := Text.join_sublist
    (List.filter_sublist (l := Place.parts text)
      (p := fun part => !Place.stays part)) ['/']
  rw [Place.parts, Text.join_splitAtChar] at within
  exact within

/-- The parts that are left lead to the same place. -/
theorem foldlM_step_moving
    (leads : (Place.parts name).foldlM files.step place = .ok found) :
    (Place.parts (moving name)).foldlM files.step place = .ok found := by
  have leadsOn := foldlM_step_filter leads
  by_cases none : (Place.parts name).filter (fun part => !Place.stays part) = []
  · -- All parts stay, so that an empty one is left, which needs a directory to stay in.
    have bare : Place.parts (moving name) = [[]] := by
      unfold moving
      rw [none]
      rfl
    rw [none] at leadsOn
    obtain rfl : place = found := Except.ok.inj leadsOn
    obtain ⟨part, rest, split⟩ :=
      List.exists_cons_of_ne_nil (Text.splitAtChar_ne_nil '/' name)
    rw [Place.parts, split, List.foldlM_cons] at leads
    obtain ⟨next, stepped, -⟩ := bind_eq_ok_iff.mp leads
    obtain ⟨standing, -, -⟩ := step_eq_ok_iff.mp stepped
    rw [bare, List.foldlM_cons]
    exact bind_eq_ok_iff.mpr
      ⟨place, step_eq_ok_iff.mpr ⟨standing, Nat.zero_le _, rfl⟩, rfl⟩
  · have apart : ∀ part ∈ (Place.parts name).filter fun part => !Place.stays part,
        '/' ∉ part := fun part present =>
      Text.not_mem_of_mem_splitAtChar (List.mem_filter.mp present).1
    have same : Place.parts (moving name) =
        (Place.parts name).filter fun part => !Place.stays part :=
      Text.splitAtChar_join none apart
    rw [same]
    exact leadsOn

theorem tidied_cons_slash (rest : Text) : tidied ('/' :: rest) = '/' :: moving rest := rfl

theorem tidied_of_relative (relative : name.head? ≠ some '/') :
    tidied name = moving name :=
  if_neg relative

/-- What is left never begins with a slash. -/
theorem head?_moving_ne (text : Text) : (moving text).head? ≠ some '/' := by
  unfold moving
  cases left : (Place.parts text).filter fun part => !Place.stays part with
  | nil => simp
  | cons part rest =>
      have present : part ∈ (Place.parts text).filter fun part => !Place.stays part := by
        rw [left]
        exact List.mem_cons_self
      obtain ⟨isPart, moves⟩ := List.mem_filter.mp present
      have apart : '/' ∉ part := Text.not_mem_of_mem_splitAtChar isPart
      cases part with
      | nil => cases moves
      | cons char part =>
          rw [Text.join_cons_cons, List.head?_cons]
          rintro same
          rw [Option.some.inj same] at apart
          exact apart List.mem_cons_self

theorem tidied_sublist (name : Text) : (tidied name).Sublist name := by
  by_cases absolute : name.head? = some '/'
  · obtain ⟨rest, rfl⟩ := List.head?_eq_some_iff.mp absolute
    rw [tidied_cons_slash]
    exact (moving_sublist rest).cons_cons '/'
  · rw [tidied_of_relative absolute]
    exact moving_sublist name

theorem foldlM_step_tidied
    (leads : (Place.parts name).foldlM files.step (Place.start name) = .ok found) :
    (Place.parts (tidied name)).foldlM files.step (Place.start (tidied name)) =
      .ok found := by
  by_cases absolute : name.head? = some '/'
  · obtain ⟨rest, rfl⟩ := List.head?_eq_some_iff.mp absolute
    rw [tidied_cons_slash]
    change ([] :: Place.parts rest).foldlM files.step Place.root = _ at leads
    change ([] :: Place.parts (moving rest)).foldlM files.step Place.root = _
    rw [List.foldlM_cons] at leads ⊢
    obtain ⟨next, stepped, leads⟩ := bind_eq_ok_iff.mp leads
    exact bind_eq_ok_iff.mpr ⟨next, stepped, foldlM_step_moving leads⟩
  · rw [tidied_of_relative absolute]
    rw [Place.start, if_neg absolute] at leads
    rw [Place.start, if_neg (head?_moving_ne name)]
    exact foldlM_step_moving leads

/-- What is found under a name is found under the tidied name too. -/
theorem find_tidied
    (finds : files.find name = .ok (found, file)) :
    files.find (tidied name) = .ok (found, file) := by
  obtain ⟨possible, short, leads, standing⟩ := find_eq_ok_iff.mp finds
  have within := tidied_sublist name
  refine find_eq_ok_iff.mpr ⟨?_, ?_, foldlM_step_tidied leads, standing⟩
  · exact fun zero => possible (within.subset zero)
  · exact Nat.le_trans (size_le_of_sublist within) short

/-! ## Names that lead through places that stay -/

/-- The places that a name leads through, from the one at which it starts to the last
one. -/
def trail (name : Text) : List Place :=
  (Place.parts name).scanl Place.follow (Place.start name)

/-- Steps are still taken among other files if they keep what stands on the way. -/
theorem foldlM_step_of_kept
    {others : Files}
    (kept : ∀ passed ∈ parts.scanl Place.follow place, ∀ file,
      files.at? passed = some file → others.at? passed = some file)
    (leads : parts.foldlM files.step place = .ok found) :
    found ∈ parts.scanl Place.follow place ∧
    parts.foldlM others.step place = .ok found := by
  induction parts generalizing place with
  | nil =>
      obtain rfl := Except.ok.inj leads
      exact ⟨List.mem_singleton_self place, rfl⟩
  | cons part parts inductionHypothesis =>
      rw [List.foldlM_cons] at leads ⊢
      rw [List.scanl_cons] at kept ⊢
      obtain ⟨next, stepped, leads⟩ := bind_eq_ok_iff.mp leads
      obtain ⟨standing, short, rfl⟩ := step_eq_ok_iff.mp stepped
      obtain ⟨here, behind⟩ := List.forall_mem_cons.mp kept
      obtain ⟨among, others⟩ := inductionHypothesis behind leads
      exact ⟨List.mem_cons_of_mem _ among, bind_eq_ok_iff.mpr
        ⟨_, step_eq_ok_iff.mpr ⟨here _ standing, short, rfl⟩, others⟩⟩

/-- What is found under a name is still found among other files if they keep what stands
on the way to it. -/
theorem find_of_kept
    {others : Files}
    (kept : ∀ passed ∈ trail name, ∀ file,
      files.at? passed = some file → others.at? passed = some file)
    (finds : files.find name = .ok (found, file)) :
    others.find name = .ok (found, file) := by
  obtain ⟨possible, short, leads, standing⟩ := find_eq_ok_iff.mp finds
  obtain ⟨among, others⟩ := foldlM_step_of_kept kept leads
  exact find_eq_ok_iff.mpr ⟨possible, short, others, kept found among file standing⟩

/-! ## Writing -/

/-- An entry behind all others changes nothing at another place. -/
theorem at?_concat
    (other : place ≠ written)
    (standing : files.at? place = some file)
    (entry : File) :
    ({ files with entries := files.entries ++ [(written, entry)] } : Files).at? place =
      some file := by
  unfold at? at standing ⊢
  have different : (place == written) = false := beq_eq_false_iff_ne.mpr other
  simp only [List.reverse_append, List.reverse_cons, List.reverse_nil, List.nil_append,
    List.cons_append, List.lookup_cons, different, List.any_append, Bool.or_eq_true]
  cases held : files.entries.reverse.lookup place with
  | some present =>
      rw [held] at standing
      exact standing
  | none =>
      rw [held] at standing
      dsimp only at standing ⊢
      split at standing
      · rename_i onTheWay
        rw [if_pos (onTheWay.imp_right .inl)]
        exact standing
      · cases standing

/-- A text that is written changes nothing at another place. -/
theorem at?_append
    (other : place ≠ written)
    (standing : files.at? place = some file)
    (added : Text) :
    (files.append written added).at? place = some file := by
  unfold append
  split
  · exact standing
  · exact at?_concat other standing _
  · exact at?_concat other standing _

end Files
end WildcardDiff
