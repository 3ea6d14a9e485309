import WildcardDiff.Proofs.Regex.Simplified

/-!
# Sources for a search

The simplification of a source drops characters from both of its ends. What it leaves
can be said of the events, before any of them is written: a `*` that comes first is left
out with the anchor before it, and a `*` that then comes last with the anchor after it.
Every other event is written in full, whatever stands next to it.
-/

namespace WildcardDiff

namespace Construct

theorem events_ne_nil (construct : Construct) : construct.events ≠ [] := by
  cases construct <;> simp [events]

theorem head?_events {construct : Construct} :
    construct.events.head? = some .star ↔ construct = .star := by
  cases construct <;> simp [events]

theorem getLast?_events {construct : Construct} :
    construct.events.getLast? = some .star ↔ construct = .star := by
  cases construct with
  | set choices =>
      rw [events, List.getLast?_concat]
      simp
  | _ => simp [events]

/-- The events of a row begin with `*` exactly if the row does. -/
theorem head?_flatMap_events {constructs : List Construct} :
    (constructs.flatMap events).head? = some .star ↔
      ∃ others, constructs = .star :: others := by
  cases constructs with
  | nil => simp
  | cons construct others =>
      rw [List.flatMap_cons, List.head?_append_of_ne_nil _ construct.events_ne_nil,
        head?_events]
      simp

/-- The events of a row end with `*` exactly if the row does. -/
theorem getLast?_flatMap_events {constructs : List Construct} :
    (constructs.flatMap events).getLast? = some .star ↔
      ∃ others, constructs = others ++ [.star] := by
  obtain rfl | ⟨others, construct, rfl⟩ := constructs.eq_nil_or_concat
  · simp
  · rw [List.concat_eq_append, List.flatMap_append, List.flatMap_singleton,
      List.getLast?_append_of_ne_nil _ construct.events_ne_nil, getLast?_events]
    simp

/-- The only event of a row is `*` exactly if its only construct is. -/
theorem flatMap_events_eq_star_iff {constructs : List Construct} :
    constructs.flatMap events = [.star] ↔ constructs = [.star] := by
  constructor
  · intro single
    have first : (constructs.flatMap events).head? = some .star := by
      rw [single]
      rfl
    obtain ⟨others, rfl⟩ := head?_flatMap_events.mp first
    have empty : others.flatMap events = [] := (List.cons.inj single).2
    cases others with
    | nil => rfl
    | cons construct others =>
        rw [List.flatMap_cons, List.append_eq_nil_iff] at empty
        exact absurd empty.1 construct.events_ne_nil
  · rintro rfl
    rfl

end Construct

namespace Regex

/-- The source of events and of the end of the text. A run at the end leaves both out. -/
def closedSource (events : List Event) : Text :=
  if events.getLast? = some .star then body false events.dropLast
  else body false events ++ endAnchor

/-- The source of events for a search, put together event by event. -/
def searchSource (events : List Event) : Text :=
  if events = [.star] then []
  else if events.head? = some .star then closedSource events.tail
  else '^' :: closedSource events

/-- A run at the beginning, a point that stands for itself, and two runs at the end. -/
example : searchSource [.star, .literal '.', .star, .star] = "\\..*".toList := by
  decide

/-- A frame without its last run is written as its events are. -/
theorem source_withoutLastRun_events (start : Bool) (constructs : List Construct) :
    (Frame.withoutLastRun ⟨start, constructs, true⟩).source false =
      (if start then ['^'] else []) ++
        closedSource (constructs.flatMap Construct.events) := by
  unfold closedSource
  by_cases ends : ∃ others, constructs = others ++ [.star]
  · rw [if_pos (Construct.getLast?_flatMap_events.mpr ends)]
    obtain ⟨others, rfl⟩ := ends
    have shorter : ((others ++ [Construct.star]).flatMap Construct.events).dropLast =
        others.flatMap Construct.events := by
      rw [List.flatMap_append]
      exact List.dropLast_concat
    rw [shorter, body_constructs]
    simp [Frame.withoutLastRun, Frame.source]
  · rw [if_neg fun last => ends (Construct.getLast?_flatMap_events.mp last),
      Frame.withoutLastRun_of_not_star ends, body_constructs]
    simp [Frame.source]

/-- What a simplification leaves of constructs is what their events are written as for a
search. -/
theorem source_simplified (constructs : List Construct) :
    (Frame.simplified constructs).source false =
      searchSource (constructs.flatMap Construct.events) := by
  unfold Frame.simplified searchSource
  by_cases single : constructs = [.star]
  · rw [if_pos single, if_pos (Construct.flatMap_events_eq_star_iff.mpr single)]
    rfl
  · rw [if_neg single, if_neg fun star =>
      single (Construct.flatMap_events_eq_star_iff.mp star)]
    by_cases begins : ∃ others, constructs = .star :: others
    · rw [if_pos (Construct.head?_flatMap_events.mpr begins)]
      obtain ⟨others, rfl⟩ := begins
      exact source_withoutLastRun_events false others
    · rw [if_neg fun first => begins (Construct.head?_flatMap_events.mp first),
        Frame.withoutFirstRun_of_not_star begins]
      exact source_withoutLastRun_events true constructs

/-! ## What is left out -/

/-- At the end, no event is left out but `*`, and the anchor with it. -/
theorem exists_kept_of_closedSource (events : List Event) :
    ∃ kept back : List Event,
      events = kept ++ back ∧ (back = [] ∨ back = [.star]) ∧
        closedSource events = body false kept ++ if back = [] then endAnchor else [] := by
  unfold closedSource
  by_cases last : events.getLast? = some .star
  · obtain ⟨kept, rfl⟩ := List.getLast?_eq_some_iff.mp last
    refine ⟨kept, [.star], rfl, .inr rfl, ?_⟩
    rw [if_pos last, List.dropLast_concat]
    simp
  · refine ⟨events, [], by simp, .inl rfl, ?_⟩
    rw [if_neg last, if_pos rfl]

/-- All events are written for a search, but for one `*` at each end at most. With it
goes the anchor that stands there; a `*` alone takes both of them. -/
theorem exists_kept_of_searchSource (events : List Event) :
    ∃ front kept back : List Event,
      events = front ++ kept ++ back ∧
        (front = [] ∨ front = [.star]) ∧ (back = [] ∨ back = [.star]) ∧
        searchSource events =
          (if front = [] then ['^'] else []) ++ body false kept ++
            if back = [] ∧ events ≠ [.star] then endAnchor else [] := by
  unfold searchSource
  by_cases single : events = [.star]
  · refine ⟨[.star], [], [], single, .inr rfl, .inl rfl, ?_⟩
    rw [if_pos single]
    simp [single, body]
  · rw [if_neg single]
    by_cases first : events.head? = some .star
    · obtain ⟨others, rfl⟩ := List.head?_eq_some_iff.mp first
      obtain ⟨kept, back, split, run, written⟩ := exists_kept_of_closedSource others
      refine ⟨[.star], kept, back, by simp [split], .inr rfl, run, ?_⟩
      rw [if_pos first, List.tail_cons, written]
      simp [single]
    · obtain ⟨kept, back, split, run, written⟩ := exists_kept_of_closedSource events
      refine ⟨[], kept, back, by simpa using split, .inl rfl, run, ?_⟩
      rw [if_neg first, written]
      simp [single]

end Regex

/-- The source that a pattern is searched with is put together from its events: it is
empty for a single `*`, and otherwise leaves out a `*` that comes first, with the anchor
before it, and a `*` that then comes last, with the anchor after it. No other event
loses a character. -/
theorem Pattern.regex_eq_searchSource (pattern : Pattern) :
    pattern.regex false = Regex.searchSource pattern.events ∧
      ∃ front kept back : List Event,
        pattern.events = front ++ kept ++ back ∧
          (front = [] ∨ front = [.star]) ∧ (back = [] ∨ back = [.star]) ∧
          pattern.regex false =
            (if front = [] then ['^'] else []) ++ Regex.body false kept ++
              if back = [] ∧ pattern.events ≠ [.star] then Regex.endAnchor else [] := by
  have written : pattern.regex false = Regex.searchSource pattern.events := by
    obtain ⟨constructs, -, events⟩ := pattern.exists_constructs
    rw [Pattern.regex, events, Regex.ofEvents_plain, Regex.source_simplified]
  rw [written]
  exact ⟨rfl, Regex.exists_kept_of_searchSource pattern.events⟩

end WildcardDiff
