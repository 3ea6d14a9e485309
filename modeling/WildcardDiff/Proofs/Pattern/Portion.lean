import WildcardDiff.Pattern.Element
import Mathlib.Data.List.Forall2

/-!
# Portions

What a pattern and its regular expressions have in common: a row of portions, each of
which takes either any run of items or a single item of some kind. A row accepts a
sequence if the sequence can be cut into consecutive pieces, one for each portion. Every
matcher is compared with this relation, which says nothing about how a cut is found.
-/

namespace WildcardDiff

/-- One portion of a row. -/
inductive Portion (α : Type)
  | run
  | one (fits : α -> Bool)

namespace Portion

/-- Whether a piece is what a portion takes. -/
def Takes : Portion α -> List α -> Prop
  | .run, _ => True
  | .one fits, piece => ∃ item, piece = [item] ∧ fits item = true

/-- Whether a row of portions accepts a sequence. A run is left, or takes one more
item. -/
inductive Accepts : List (Portion α) -> List α -> Prop
  | nil : Accepts [] []
  | take {fits : α -> Bool} {item : α} {portions : List (Portion α)} {items : List α} :
      fits item = true -> Accepts portions items ->
      Accepts (.one fits :: portions) (item :: items)
  | leave {portions : List (Portion α)} {items : List α} :
      Accepts portions items -> Accepts (.run :: portions) items
  | stay {item : α} {portions : List (Portion α)} {items : List α} :
      Accepts (.run :: portions) items -> Accepts (.run :: portions) (item :: items)

@[simp] theorem accepts_nil {items : List α} : Accepts [] items ↔ items = [] := by
  constructor
  · intro accepts
    cases accepts
    rfl
  · rintro rfl
    exact .nil

theorem accepts_one_cons
    {fits : α -> Bool}
    {portions : List (Portion α)}
    {items : List α} :
    Accepts (.one fits :: portions) items ↔
      ∃ item rest, items = item :: rest ∧ fits item = true ∧ Accepts portions rest := by
  constructor
  · intro accepts
    cases accepts with
    | take fit rest => exact ⟨_, _, rfl, fit, rest⟩
  · rintro ⟨item, rest, rfl, fit, accepts⟩
    exact .take fit accepts

/-- A run may take any items before it is left. -/
theorem Accepts.skip
    {portions : List (Portion α)}
    {rest : List α}
    (taken : List α)
    (accepts : Accepts portions rest) :
    Accepts (.run :: portions) (taken ++ rest) := by
  induction taken with
  | nil => exact .leave accepts
  | cons item taken inductionHypothesis => exact .stay inductionHypothesis

theorem accepts_run (items : List α) : Accepts [.run] items := by
  have accepts := Accepts.nil.skip items
  rwa [List.append_nil] at accepts

theorem accepts_run_cons {portions : List (Portion α)} {items : List α} :
    Accepts (.run :: portions) items ↔
      ∃ taken rest, items = taken ++ rest ∧ Accepts portions rest := by
  constructor
  · intro accepts
    generalize row : Portion.run :: portions = whole at accepts
    induction accepts with
    | nil => cases row
    | take => cases row
    | leave rest =>
        cases row
        exact ⟨[], _, rfl, rest⟩
    | @stay item _ _ _ inductionHypothesis =>
        obtain ⟨taken, rest, rfl, accepts⟩ := inductionHypothesis row
        cases row
        exact ⟨item :: taken, rest, rfl, accepts⟩
  · rintro ⟨taken, rest, rfl, accepts⟩
    exact accepts.skip taken

/-- Two rows in a row accept what the first and then the second accepts. -/
theorem accepts_append {front back : List (Portion α)} {items : List α} :
    Accepts (front ++ back) items ↔
      ∃ first second, items = first ++ second ∧ Accepts front first ∧
        Accepts back second := by
  induction front generalizing items with
  | nil => simp
  | cons portion front inductionHypothesis =>
      cases portion with
      | run =>
          simp only [List.cons_append, accepts_run_cons, inductionHypothesis]
          constructor
          · rintro ⟨taken, rest, rfl, first, second, rfl, accepts, following⟩
            exact ⟨taken ++ first, second, by
              simp, ⟨taken, first, rfl, accepts⟩, following⟩
          · rintro ⟨_, second, rfl, ⟨taken, first, rfl, accepts⟩, following⟩
            exact ⟨taken, first ++ second, by
              simp, first, second, rfl, accepts, following⟩
      | one fits =>
          simp only [List.cons_append, accepts_one_cons, inductionHypothesis]
          constructor
          · rintro ⟨item, rest, rfl, fit, first, second, rfl, accepts, following⟩
            exact ⟨item :: first, second, rfl, ⟨item, first, rfl, fit, accepts⟩,
              following⟩
          · rintro ⟨_, second, rfl, ⟨item, first, rfl, fit, accepts⟩, following⟩
            exact ⟨item, first ++ second, rfl, fit, first, second, rfl, accepts,
              following⟩

/-- A row accepts a sequence exactly if the sequence is cut into pieces that its portions
take one by one. -/
theorem accepts_iff_pieces {portions : List (Portion α)} {items : List α} :
    Accepts portions items ↔
      ∃ pieces : List (List α),
        pieces.flatten = items ∧ List.Forall₂ Takes portions pieces := by
  induction portions generalizing items with
  | nil =>
      simp only [accepts_nil, List.forall₂_nil_left_iff, exists_eq_right,
        List.flatten_nil]
      exact eq_comm
  | cons portion portions inductionHypothesis =>
      simp only [List.forall₂_cons_left_iff]
      cases portion with
      | run =>
          simp only [accepts_run_cons, inductionHypothesis, Takes, true_and]
          constructor
          · rintro ⟨taken, rest, rfl, pieces, rfl, fit⟩
            exact ⟨taken :: pieces, rfl, taken, pieces, fit, rfl⟩
          · rintro ⟨_, rfl, taken, pieces, fit, rfl⟩
            exact ⟨taken, pieces.flatten, rfl, pieces, rfl, fit⟩
      | one fits =>
          simp only [accepts_one_cons, inductionHypothesis, Takes]
          constructor
          · rintro ⟨item, rest, rfl, fit, pieces, rfl, others⟩
            exact ⟨[item] :: pieces, rfl, [item], pieces, ⟨item, rfl, fit⟩, others, rfl⟩
          · rintro ⟨_, rfl, _, pieces, ⟨item, rfl, fit⟩, others, rfl⟩
            exact ⟨item, pieces.flatten, rfl, fit, pieces, rfl, others⟩

/-- Whether a portion takes every item of a domain that another portion takes. -/
def Covers (domain : α -> Prop) : (wide narrow : Portion α) -> Prop
  | .run, .run => True
  | .one wide, .one narrow =>
      ∀ item, domain item -> narrow item = true -> wide item = true
  | _, _ => False

/-- If each portion of a row covers the one in its place, what the row in its place
accepts is accepted. -/
theorem Accepts.map_mono
    {row : List β}
    {wide narrow : β -> Portion α}
    {domain : α -> Prop}
    {items : List α}
    (covers : ∀ entry ∈ row, Covers domain (wide entry) (narrow entry))
    (within : ∀ item ∈ items, domain item)
    (accepts : Accepts (row.map narrow) items) :
    Accepts (row.map wide) items := by
  induction row generalizing items with
  | nil => exact accepts
  | cons entry row inductionHypothesis =>
      have here := covers entry List.mem_cons_self
      have others : ∀ entry ∈ row, Covers domain (wide entry) (narrow entry) :=
        fun other listed => covers other (List.mem_cons_of_mem _ listed)
      rw [List.map_cons] at accepts ⊢
      cases narrowed : narrow entry with
      | run =>
          cases widened : wide entry with
          | run =>
              rw [narrowed] at accepts
              obtain ⟨taken, rest, rfl, following⟩ := accepts_run_cons.mp accepts
              refine .skip taken (inductionHypothesis others ?_ following)
              exact fun item present => within item (List.mem_append_right _ present)
          | one wider =>
              rw [narrowed, widened] at here
              exact here.elim
      | one narrower =>
          cases widened : wide entry with
          | run =>
              rw [narrowed, widened] at here
              exact here.elim
          | one wider =>
              rw [narrowed] at accepts
              rw [narrowed, widened] at here
              obtain ⟨item, rest, rfl, fits, following⟩ := accepts_one_cons.mp accepts
              refine .take (here item (within item List.mem_cons_self) fits) ?_
              refine inductionHypothesis others ?_ following
              exact fun other present => within other (List.mem_cons_of_mem _ present)

/-! ## Shortest sequences -/

/-- Whether a portion takes a single item. -/
def isOne : Portion α -> Bool
  | .run => false
  | .one _ => true

/-- A row accepts no sequence that has fewer items than the row has single portions. -/
theorem Accepts.count_isOne_le
    {portions : List (Portion α)}
    {items : List α}
    (accepts : Accepts portions items) :
    portions.countP isOne ≤ items.length := by
  induction accepts with
  | nil => exact Nat.le_refl 0
  | take _ _ inductionHypothesis =>
      rw [List.countP_cons_of_pos rfl, List.length_cons]
      exact Nat.succ_le_succ inductionHypothesis
  | leave _ inductionHypothesis =>
      rwa [List.countP_cons_of_neg (by simp [isOne])]
  | stay _ inductionHypothesis => exact Nat.le_succ_of_le inductionHypothesis

/-- A row of single portions accepts the sequences that it takes item by item. -/
theorem accepts_iff_forall₂
    {portions : List (Portion α)}
    {items : List α}
    (single : ∀ portion ∈ portions, portion.isOne = true) :
    Accepts portions items ↔
      List.Forall₂ (fun portion item => Takes portion [item]) portions items := by
  induction portions generalizing items with
  | nil => rw [accepts_nil, List.forall₂_nil_left_iff]
  | cons portion portions inductionHypothesis =>
      rw [List.forall_mem_cons] at single
      cases portion with
      | run => exact absurd single.1 (by simp [isOne])
      | one fits =>
          rw [accepts_one_cons, List.forall₂_cons_left_iff]
          constructor
          · rintro ⟨item, rest, rfl, fit, accepts⟩
            exact ⟨item, rest, ⟨item, rfl, fit⟩,
              (inductionHypothesis single.2).mp accepts, rfl⟩
          · rintro ⟨item, rest, ⟨_, same, fit⟩, pairs, rfl⟩
            obtain rfl := List.singleton_inj.mp same
            exact ⟨item, rest, rfl, fit, (inductionHypothesis single.2).mpr pairs⟩

/-- A row with a single portion in it accepts a sequence with an item in that place. -/
theorem accepts_append_one_cons
    {front back : List (Portion α)}
    {fits : α -> Bool}
    {items : List α} :
    Accepts (front ++ .one fits :: back) items ↔
      ∃ first item second, items = first ++ item :: second ∧ fits item = true ∧
        Accepts front first ∧ Accepts back second := by
  rw [accepts_append]
  simp only [accepts_one_cons]
  constructor
  · rintro ⟨first, _, rfl, frontAccepts, item, second, rfl, fit, backAccepts⟩
    exact ⟨first, item, second, rfl, fit, frontAccepts, backAccepts⟩
  · rintro ⟨first, item, second, rfl, fit, frontAccepts, backAccepts⟩
    exact ⟨first, item :: second, rfl, frontAccepts, item, second, rfl, fit, backAccepts⟩

/-- Where no run has an item to spare, the item between two parts of a sequence is taken
by the portion between the two parts of the row. -/
theorem Accepts.fits_of_tight
    {front back : List (Portion α)}
    {fits : α -> Bool}
    {first second : List α}
    {item : α}
    (accepts : Accepts (front ++ .one fits :: back) (first ++ item :: second))
    (tightFirst : first.length ≤ front.countP isOne)
    (tightSecond : second.length ≤ back.countP isOne) :
    fits item = true := by
  obtain ⟨before, given, after, split, fit, frontAccepts, backAccepts⟩ :=
    accepts_append_one_cons.mp accepts
  have frontLength := frontAccepts.count_isOne_le
  have backLength := backAccepts.count_isOne_le
  have total := congrArg List.length split
  simp only [List.length_append, List.length_cons] at total
  obtain ⟨-, following⟩ := List.append_inj split (by omega)
  rw [(List.cons.inj following).1]
  exact fit

/-- A portion of the images of items, as a portion of the items. -/
def comap (image : α -> β) : Portion β -> Portion α
  | .run => .run
  | .one fits => .one (fits ∘ image)

/-- Images are accepted as the items are by the portions of the items. -/
theorem accepts_map (image : α -> β) {portions : List (Portion β)} {items : List α} :
    Accepts portions (items.map image) ↔ Accepts (portions.map (comap image)) items := by
  induction portions generalizing items with
  | nil => simp
  | cons portion portions inductionHypothesis =>
      cases portion with
      | run =>
          simp only [List.map_cons, comap, accepts_run_cons, ← inductionHypothesis,
            List.map_eq_append_iff]
          constructor
          · rintro ⟨_, _, ⟨taken, rest, rfl, rfl, rfl⟩, accepts⟩
            exact ⟨taken, rest, rfl, accepts⟩
          · rintro ⟨taken, rest, rfl, accepts⟩
            exact ⟨_, _, ⟨taken, rest, rfl, rfl, rfl⟩, accepts⟩
      | one fits =>
          simp only [List.map_cons, comap, accepts_one_cons, ← inductionHypothesis,
            List.map_eq_cons_iff]
          constructor
          · rintro ⟨_, _, ⟨item, rest, rfl, rfl, rfl⟩, fit, accepts⟩
            exact ⟨item, rest, rfl, fit, accepts⟩
          · rintro ⟨item, rest, rfl, fit, accepts⟩
            exact ⟨_, _, ⟨item, rest, rfl, rfl, rfl⟩, fit, accepts⟩

end Portion

/-- The portion that an element of a pattern is, for items of which it takes some. -/
def Element.portion (takes : α -> Element -> Bool) : Element -> Portion α
  | .anyRun => .run
  | .literal folded => .one fun item => takes item (.literal folded)
  | .anyChar => .one fun item => takes item .anyChar
  | .oneOf set => .one fun item => takes item (.oneOf set)

end WildcardDiff
