import Mathlib.Data.List.Forall2

/-!
# Computations that may fail

When a computation that is put together from others succeeds, and why it fails.
-/

namespace WildcardDiff

/-- A computation in two steps succeeds exactly if both steps do. -/
theorem bind_eq_ok_iff {first : Except ε α} {second : α → Except ε β} {result : β} :
    first >>= second = .ok result ↔
      ∃ between, first = .ok between ∧ second between = .ok result := by
  cases first <;> simp [bind, Except.bind]

/-- A computation in two steps fails exactly if one of the steps does. -/
theorem bind_eq_error_iff
    {first : Except ε α}
    {second : α → Except ε β}
    {failure : ε} :
    first >>= second = .error failure ↔
      first = .error failure ∨
        ∃ between, first = .ok between ∧ second between = .error failure := by
  cases first <;> simp [bind, Except.bind]

theorem map_eq_ok_iff {computed : Except ε α} {change : α → β} {result : β} :
    computed.map change = .ok result ↔
      ∃ value, computed = .ok value ∧ change value = result := by
  cases computed <;> simp [Except.map]

theorem mapError_eq_ok_iff {computed : Except ε α} {change : ε → δ} {value : α} :
    computed.mapError change = .ok value ↔ computed = .ok value := by
  cases computed with
  | error error => exact iff_of_false nofun nofun
  | ok found =>
      constructor
      all_goals
        intro same
        obtain rfl := Except.ok.inj same
        rfl

theorem mapError_eq_error_iff {computed : Except ε α} {change : ε → δ} {failure : δ} :
    computed.mapError change = .error failure ↔
      ∃ error, computed = .error error ∧ change error = failure := by
  cases computed with
  | error error =>
      constructor
      · intro changed
        exact ⟨error, rfl, Except.error.inj changed⟩
      · rintro ⟨_, same, rfl⟩
        rw [Except.error.inj same]
        rfl
  | ok value =>
      refine iff_of_false nofun ?_
      rintro ⟨_, same, -⟩
      cases same

/-- A step succeeds on all items exactly if it does on each of them. -/
theorem mapM_eq_ok_iff {step : α → Except ε β} {items : List α} {values : List β} :
    items.mapM step = .ok values ↔
      List.Forall₂ (fun item value => step item = .ok value) items values := by
  induction items generalizing values with
  | nil =>
      rw [List.mapM_nil, List.forall₂_nil_left_iff]
      constructor
      · intro done
        exact (Except.ok.inj done).symm
      · rintro rfl
        rfl
  | cons item items inductionHypothesis =>
      rw [List.mapM_cons, List.forall₂_cons_left_iff, bind_eq_ok_iff]
      constructor
      · rintro ⟨value, first, later⟩
        obtain ⟨others, rest, done⟩ := bind_eq_ok_iff.mp later
        obtain rfl := Except.ok.inj done
        exact ⟨value, others, first, inductionHypothesis.mp rest, rfl⟩
      · rintro ⟨value, others, first, rest, rfl⟩
        refine ⟨value, first, ?_⟩
        rw [inductionHypothesis.mpr rest]
        rfl

/-- What holds of the value that a step gives for each item holds of all values. -/
theorem forall_mem_of_mapM
    {step : α → Except ε β}
    {items : List α}
    {values : List β}
    {property : β → Prop}
    (mapped : items.mapM step = .ok values)
    (each : ∀ item ∈ items, ∀ value, step item = .ok value → property value) :
    ∀ value ∈ values, property value := by
  rw [mapM_eq_ok_iff] at mapped
  induction mapped with
  | nil => exact List.forall_mem_nil property
  | cons first _ inductionHypothesis =>
      rw [List.forall_mem_cons] at each ⊢
      exact ⟨each.1 _ first, inductionHypothesis each.2⟩

/-- Values and failures of a step can be changed on each item, or on all of them at
once. -/
theorem mapM_map_mapError
    (step : α → Except ε β)
    (change : β → γ)
    (blame : ε → δ)
    (items : List α) :
    (items.mapM fun item => ((step item).map change).mapError blame) =
      ((items.mapM step).map (List.map change)).mapError blame := by
  induction items with
  | nil => rfl
  | cons item items inductionHypothesis =>
      rw [List.mapM_cons, List.mapM_cons, inductionHypothesis]
      cases step item with
      | error error => rfl
      | ok value => cases items.mapM step <;> rfl

/-- A step that succeeds on every item succeeds on all of them. -/
theorem exists_mapM_eq_ok
    {step : α → Except ε β}
    {items : List α}
    (each : ∀ item ∈ items, ∃ value, step item = .ok value) :
    ∃ values, items.mapM step = .ok values := by
  induction items with
  | nil => exact ⟨[], rfl⟩
  | cons item items inductionHypothesis =>
      rw [List.forall_mem_cons] at each
      obtain ⟨⟨value, first⟩, others⟩ := each
      obtain ⟨values, rest⟩ := inductionHypothesis others
      refine ⟨value :: values, ?_⟩
      rw [List.mapM_cons, first, rest]
      rfl

end WildcardDiff
