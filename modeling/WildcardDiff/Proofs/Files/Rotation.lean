import WildcardDiff.Files.Rotation
import WildcardDiff.Proofs.Files.Find

/-!
# What a log leaves alone

A log file and its backups stand beside each other. Writing to the log changes nothing
at places that lie under none of them, so that a file is found as before unless its name
leads through one.
-/

namespace WildcardDiff
namespace Place

variable {place first second third : Place}

theorem leadsTo_iff : first.leadsTo second = true ↔
    first.base = second.base ∧ first.names <+: second.names := by
  unfold leadsTo
  rw [Bool.and_eq_true, decide_eq_true_iff, List.isPrefixOf_iff_prefix]

theorem leadsTo_refl (place : Place) : place.leadsTo place = true :=
  leadsTo_iff.mpr ⟨rfl, List.prefix_refl _⟩

theorem leadsTo_trans
    (toSecond : first.leadsTo second = true)
    (toThird : second.leadsTo third = true) :
    first.leadsTo third = true := by
  rw [leadsTo_iff] at toSecond toThird ⊢
  exact ⟨toSecond.1.trans toThird.1, toSecond.2.trans toThird.2⟩

/-- Of two places on the way to a third one, one is on the way to the other. -/
theorem leadsTo_or_leadsTo
    (isFirst : first.leadsTo third = true)
    (isSecond : second.leadsTo third = true) :
    first.leadsTo second = true ∨ second.leadsTo first = true := by
  rw [leadsTo_iff] at isFirst isSecond
  rw [leadsTo_iff, leadsTo_iff]
  have same := isFirst.1.trans isSecond.1.symm
  exact (List.prefix_or_prefix_of_prefix isFirst.2 isSecond.2).imp
    (fun front => ⟨same, front⟩) fun front => ⟨same.symm, front⟩

/-- Whether two places are in the same directory. -/
def IsBeside (first second : Place) : Prop :=
  first.base = second.base ∧ first.names.dropLast = second.names.dropLast

theorem IsBeside.symm (beside : first.IsBeside second) : second.IsBeside first :=
  ⟨beside.1.symm, beside.2.symm⟩

theorem isBeside_backup
    (place : Place)
    (number : Nat) :
    place.IsBeside (place.backup number) := by
  cases number with
  | zero => exact ⟨rfl, rfl⟩
  | succ number => exact ⟨rfl, List.dropLast_concat.symm⟩

theorem isBeside_backups (place : Place) (first second : Nat) :
    (place.backup first).IsBeside (place.backup second) :=
  ⟨(isBeside_backup place first).1.symm.trans (isBeside_backup place second).1,
    (isBeside_backup place first).2.symm.trans (isBeside_backup place second).2⟩

/-- What is above a place is above all places beside it. -/
theorem IsBeside.leadsTo
    (beside : first.IsBeside second)
    (above : place.leadsTo first = true)
    (apart : first.leadsTo place = false) :
    place.leadsTo second = true := by
  rw [leadsTo_iff] at above ⊢
  obtain ⟨base, front⟩ := above
  have shorter : place.names.length < first.names.length := by
    by_contra longer
    have same := front.eq_of_length_le (Nat.le_of_not_lt longer)
    rw [Bool.eq_false_iff, Ne, leadsTo_iff] at apart
    exact apart ⟨base.symm, same ▸ List.prefix_refl _⟩
  have within : place.names <+: first.names.dropLast :=
    List.prefix_of_prefix_length_le front (List.dropLast_prefix _)
      (by rw [List.length_dropLast]; omega)
  rw [beside.2] at within
  exact ⟨base.trans beside.1, within.trans (List.dropLast_prefix _)⟩

end Place

namespace Files

variable {files : Files} {place source target log : Place} {file : File}

/-! ## Moves -/

theorem moveEntry_of_apart
    {entry : Place × File}
    (apartSource : source.leadsTo entry.1 = false)
    (apartTarget : target.leadsTo entry.1 = false) :
    moveEntry source target entry = some entry := by
  unfold moveEntry
  rw [apartSource, apartTarget]
  rfl

/-- What is found at a place is found after a move, unless the place was moved or given
up. -/
theorem lookup_filterMap_moveEntry
    (apartSource : source.leadsTo place = false)
    (apartTarget : target.leadsTo place = false)
    (entries : List (Place × File)) :
    (entries.filterMap (moveEntry source target)).lookup place =
      entries.lookup place := by
  induction entries with
  | nil => rfl
  | cons entry entries inductionHypothesis =>
      rcases entry with ⟨key, file⟩
      rw [List.filterMap_cons, List.lookup_cons]
      by_cases same : place = key
      · subst same
        rw [moveEntry_of_apart apartSource apartTarget]
        simp
      · have other : (place == key) = false := beq_eq_false_iff_ne.mpr same
        rw [other]
        unfold moveEntry
        dsimp only
        split
        · rename_i given
          split at given
          · cases given
          · exact inductionHypothesis
        · rename_i given
          split at given
          · obtain rfl := Option.some.inj given
            have moved : place ≠
                ⟨target.base, target.names ++ key.names.drop source.names.length⟩ := by
              rintro rfl
              rw [Bool.eq_false_iff, Ne, Place.leadsTo_iff] at apartTarget
              exact apartTarget ⟨rfl, List.prefix_append _ _⟩
            rw [List.lookup_cons, beq_eq_false_iff_ne.mpr moved]
            exact inductionHypothesis
          · split at given
            · cases given
            · obtain rfl := Option.some.inj given
              rw [List.lookup_cons, other]
              exact inductionHypothesis

/-- Something that stands at a place has an entry there or under it, except at a base. -/
theorem exists_entry_of_at?
    (standing : files.at? place = some file)
    (named : place.names ≠ []) :
    ∃ entry ∈ files.entries, place.leadsTo entry.1 = true := by
  unfold at? at standing
  cases held : files.entries.reverse.lookup place with
  | some present =>
      obtain ⟨front, back, split, -⟩ := List.lookup_eq_some_iff.mp held
      have among : (place, present) ∈ files.entries := by
        rw [← List.mem_reverse, split]
        simp
      exact ⟨_, among, Place.leadsTo_refl place⟩
  | none =>
      rw [held] at standing
      dsimp only at standing
      split at standing
      · rename_i directory
        exact List.any_eq_true.mp (directory.resolve_left named)
      · cases standing

/-- A move leaves what is above the places that it is about in its place. -/
theorem any_leadsTo_move
    (beside : source.IsBeside target)
    {moved : File}
    (there : files.at? source = some moved)
    (apartSource : source.leadsTo place = false)
    (apartTarget : target.leadsTo place = false)
    (above : (files.entries.any fun entry => place.leadsTo entry.1) = true) :
    ((files.entries.filterMap (moveEntry source target)).any fun entry =>
      place.leadsTo entry.1) = true := by
  have toMoved : place.leadsTo source = true →
      ∃ entry ∈ files.entries.filterMap (moveEntry source target),
        place.leadsTo entry.1 = true := by
    intro toSource
    have named : source.names ≠ [] := by
      intro none
      rw [Bool.eq_false_iff, Ne, Place.leadsTo_iff, none] at apartSource
      exact apartSource ⟨(Place.leadsTo_iff.mp toSource).1.symm, List.nil_prefix⟩
    obtain ⟨entry, among, under⟩ := exists_entry_of_at? there named
    have goes : moveEntry source target entry =
        some (⟨target.base, target.names ++ entry.1.names.drop source.names.length⟩,
          entry.2) :=
      if_pos under
    refine ⟨_, List.mem_filterMap.mpr ⟨entry, among, goes⟩, ?_⟩
    exact Place.leadsTo_trans (beside.leadsTo toSource apartSource)
      (Place.leadsTo_iff.mpr ⟨rfl, List.prefix_append _ _⟩)
  obtain ⟨entry, among, toEntry⟩ := List.any_eq_true.mp above
  apply List.any_eq_true.mpr
  cases underSource : source.leadsTo entry.1 with
  | true =>
      rcases Place.leadsTo_or_leadsTo toEntry underSource with toSource | fromSource
      · exact toMoved toSource
      · rw [apartSource] at fromSource
        cases fromSource
  | false =>
      cases underTarget : target.leadsTo entry.1 with
      | true =>
          rcases Place.leadsTo_or_leadsTo toEntry underTarget with toTarget | fromTarget
          · exact toMoved (beside.symm.leadsTo toTarget apartTarget)
          · rw [apartTarget] at fromTarget
            cases fromTarget
      | false =>
          exact ⟨entry, List.mem_filterMap.mpr
            ⟨entry, among, moveEntry_of_apart underSource underTarget⟩, toEntry⟩

/-- What stands at a place is still there after a move between places that are not above
it. -/
theorem at?_move?
    {others : Files}
    (beside : source.IsBeside target)
    (apartSource : source.leadsTo place = false)
    (apartTarget : target.leadsTo place = false)
    (moves : files.move? source target = some others)
    (standing : files.at? place = some file) :
    others.at? place = some file := by
  unfold move? at moves
  cases there : files.at? source with
  | none =>
      rw [there] at moves
      obtain rfl := Option.some.inj moves
      exact standing
  | some moved =>
      rw [there] at moves
      dsimp only at moves
      split at moves
      · cases moves
      · obtain rfl := Option.some.inj moves
        unfold at? at standing ⊢
        dsimp only at standing ⊢
        rw [← List.filterMap_reverse, lookup_filterMap_moveEntry apartSource apartTarget]
        cases held : files.entries.reverse.lookup place with
        | some present =>
            rw [held] at standing
            exact standing
        | none =>
            rw [held] at standing
            dsimp only at standing ⊢
            split at standing
            · rename_i directory
              rw [if_pos (directory.imp_right
                (any_leadsTo_move beside there apartSource apartTarget))]
              exact standing
            · cases standing

theorem at?_moveAll
    {moves : List (Place × Place)}
    (apart : ∀ move ∈ moves, move.1.IsBeside move.2 ∧
      move.1.leadsTo place = false ∧ move.2.leadsTo place = false)
    (standing : files.at? place = some file) :
    (files.moveAll moves).1.at? place = some file := by
  induction moves generalizing files with
  | nil => exact standing
  | cons move moves inductionHypothesis =>
      rcases move with ⟨source, target⟩
      obtain ⟨⟨beside, apartSource, apartTarget⟩, others⟩ := List.forall_mem_cons.mp apart
      unfold moveAll
      split
      · rename_i moved done
        exact inductionHypothesis others
          (at?_move? beside apartSource apartTarget done standing)
      · exact standing

/-! ## Logs -/

/-- Whether a place lies neither under a log file nor under one of its backups. -/
def IsApart (log place : Place) : Prop :=
  ∀ number ≤ backupCount, (log.backup number).leadsTo place = false

instance (log place : Place) : Decidable (IsApart log place) :=
  inferInstanceAs (Decidable (∀ number ≤ backupCount, _))

theorem IsApart.ne (apart : IsApart log place) : place ≠ log := by
  rintro rfl
  have under := apart 0 (Nat.zero_le _)
  rw [Place.backup, Place.leadsTo_refl] at under
  cases under

section

variable (apart : IsApart log place)
include apart

/-- A line in the log changes nothing at a place apart from it, even if the log is put
aside. -/
theorem at?_addLine (standing : files.at? place = some file) (line : Text) :
    (files.addLine log line).at? place = some file := by
  have moved : (files.moveAll (backupMoves log)).1.at? place = some file := by
    refine at?_moveAll (fun move among => ?_) standing
    obtain ⟨number, within, rfl⟩ := List.mem_map.mp among
    rw [List.mem_reverse, List.mem_range] at within
    exact ⟨Place.isBeside_backups log number (number + 1),
      apart number (Nat.le_of_lt within), apart (number + 1) within⟩
  unfold addLine
  split
  · rcases put : files.moveAll (backupMoves log) with ⟨others, done⟩
    rw [put] at moved
    cases done with
    | true => exact at?_append apart.ne moved line
    | false => exact moved
  · exact at?_append apart.ne standing line

/-- Lines in the log change nothing at a place apart from it. -/
theorem at?_addLines (standing : files.at? place = some file) (lines : List Text) :
    (files.addLines log lines).at? place = some file := by
  unfold addLines
  have begun := at?_append apart.ne standing []
  generalize files.append log [] = opened at begun
  induction lines generalizing opened with
  | nil => exact begun
  | cons line lines inductionHypothesis =>
      exact inductionHypothesis _ (at?_addLine apart begun line)

end

/-- What a name leads to is found as before after lines were written to a log, unless
the name leads through the log file or one of its backups. -/
theorem find_addLines
    {name : Text}
    {found : Place}
    (apart : ∀ passed ∈ trail name, IsApart log passed)
    (finds : files.find name = .ok (found, file))
    (lines : List Text) :
    (files.addLines log lines).find name = .ok (found, file) :=
  find_of_kept (fun passed among _ standing =>
    at?_addLines (apart passed among) standing lines)
    finds

end Files
end WildcardDiff
