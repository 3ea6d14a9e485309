import WildcardDiff.Proofs.Regex.Source
import WildcardDiff.Proofs.Pattern.Portion

/-!
# Simplified sources

The simplification of a source looks at characters alone, and yet it drops whole
constructs: a `*` at the beginning together with its anchor, and then a `*` at the end
together with its anchor. What it looks for cannot come from anything else, since a
point and a star that stand for themselves are written with a backslash.
-/

namespace WildcardDiff

namespace Regex

/-- A quoted character begins with itself, or with a backslash if it means something. -/
theorem quote_append_ne
    {mark : Char}
    (special : isSpecial mark = true)
    (other : mark ≠ '\\')
    (char : Char)
    (rest others : Text) :
    quote char ++ rest ≠ mark :: others := by
  unfold quote
  split
  · intro equal
    exact other (List.cons.inj equal).1.symm
  · rename_i ordinary
    intro equal
    rw [(List.cons.inj equal).1] at ordinary
    exact ordinary special

theorem run_suffix_concat_iff {front : Text} {last : Char} :
    ['.', '*'] <:+ front ++ [last] ↔ ['.'] <:+ front ∧ '*' = last := by
  have lengths : ['*'].length = [last].length := rfl
  rw [show ['.', '*'] = ['.'] ++ ['*'] from
    rfl, List.suffix_append_inj_of_length_eq lengths, List.singleton_inj]

/-- A star that stands for itself has a backslash before it, where a run has a point. -/
theorem not_run_suffix_quote (char : Char) (front : Text) :
    ¬ ['.', '*'] <:+ front ++ quote char := by
  intro suffix
  unfold quote at suffix
  split at suffix
  · have split : front ++ ['\\', char] = (front ++ ['\\']) ++ [char] := by simp
    rw [split, run_suffix_concat_iff] at suffix
    obtain ⟨point, -⟩ := suffix
    have ending : ['.'].getLast? = (front ++ ['\\']).getLast? := by
      obtain ⟨before, equal⟩ := point
      rw [← equal, List.getLast?_append]
      rfl
    simp at ending
  · rename_i ordinary
    rw [run_suffix_concat_iff] at suffix
    rw [← suffix.2] at ordinary
    exact ordinary (by decide)

end Regex

namespace Construct

theorem source_ne_nil (construct : Construct) : construct.source false ≠ [] := by
  cases construct with
  | literal char =>
      rw [source_literal]
      unfold Regex.quote
      split <;> simp
  | star => simp
  | question => simp
  | set choices => simp [source_set]

/-- No construct begins with the mark of repetition. -/
theorem source_append_ne (construct : Construct) (rest others : Text) :
    construct.source false ++ rest ≠ '*' :: others := by
  cases construct with
  | literal char =>
      rw [source_literal]
      exact Regex.quote_append_ne (by decide) (by decide) char rest others
  | star => simp
  | question => simp
  | set choices => simp [source_set]

/-- A row of constructs begins with a run exactly if its source does. -/
theorem run_prefix_iff (constructs : List Construct) :
    ['.', '*'] <+: constructs.flatMap (Construct.source false) ++ Regex.endAnchor ↔
      ∃ others, constructs = .star :: others := by
  cases constructs with
  | nil => simp [Regex.endAnchor]
  | cons construct others =>
      rw [List.flatMap_cons, List.append_assoc]
      cases construct with
      | literal char =>
          rw [source_literal]
          constructor
          · rintro ⟨tail, equal⟩
            exact absurd equal.symm
              (Regex.quote_append_ne (by decide) (by decide) char _ _)
          · simp
      | star => simp
      | question =>
          have follows : ∀ tail,
            others.flatMap (Construct.source false) ++ Regex.endAnchor ≠
              '*' :: tail := by
            intro tail
            cases others with
            | nil => simp [Regex.endAnchor]
            | cons next others =>
                rw [List.flatMap_cons, List.append_assoc]
                exact source_append_ne next _ tail
          constructor
          · rintro ⟨tail, equal⟩
            exact absurd (List.cons.inj equal).2.symm (follows tail)
          · simp
      | set choices => simp [source_set]

/-- A row of constructs ends with a run exactly if its source does, behind an anchor or
not. -/
theorem run_suffix_iff (start : Bool) (constructs : List Construct) :
    ['.', '*'] <:+
        (if start then ['^'] else []) ++ constructs.flatMap (Construct.source false) ↔
      ∃ others, constructs = others ++ [.star] := by
  obtain rfl | ⟨others, construct, rfl⟩ := constructs.eq_nil_or_concat
  · cases start <;> simp [List.suffix_cons_iff]
  · rw [List.concat_eq_append, List.flatMap_append, ← List.append_assoc]
    generalize (if start then ['^'] else []) ++
      others.flatMap (Construct.source false) = front
    simp only [List.flatMap_singleton]
    cases construct with
    | literal char =>
        rw [source_literal]
        simpa using Regex.not_run_suffix_quote char front
    | star => simp
    | question => simp [Regex.run_suffix_concat_iff]
    | set choices =>
        rw [source_set, ← List.append_assoc]
        simp only [Bool.false_eq_true, if_false]
        rw [show "]".toList = [']'] from rfl, Regex.run_suffix_concat_iff]
        simp

/-- The source of a row of constructs is that of a single run only if the row is one. -/
theorem flatMap_source_eq_run_iff {constructs : List Construct} :
    constructs.flatMap (source false) = ['.', '*'] ↔ constructs = [.star] := by
  constructor
  · intro written
    have leads : ['.', '*'] <+: constructs.flatMap (source false) ++ Regex.endAnchor := by
      rw [written]
      exact List.prefix_append _ _
    obtain ⟨others, rfl⟩ := (run_prefix_iff constructs).mp leads
    have empty : others.flatMap (source false) = [] := by simpa using written
    cases others with
    | nil => rfl
    | cons construct others =>
        rw [List.flatMap_cons, List.append_eq_nil_iff] at empty
        exact absurd empty.1 construct.source_ne_nil
  · rintro rfl
    rfl

end Construct

namespace Regex
namespace Frame

/-- A frame without a run at its beginning, and without the anchor before it. -/
def withoutFirstRun (frame : Frame) : Frame :=
  match frame.constructs with
  | .star :: others => { frame with start := false, constructs := others }
  | _ => frame

/-- A frame without a run at its end, and without the anchor after it. -/
def withoutLastRun (frame : Frame) : Frame :=
  match frame.constructs.getLast? with
  | some .star => { frame with constructs := frame.constructs.dropLast, finish := false }
  | _ => frame

/-- What a simplification leaves of constructs between both anchors. -/
def simplified (constructs : List Construct) : Frame :=
  if constructs = [.star] then ⟨false, [], false⟩
  else (whole constructs).withoutFirstRun.withoutLastRun

@[simp] theorem finish_withoutFirstRun (frame : Frame) :
    frame.withoutFirstRun.finish = frame.finish := by
  unfold withoutFirstRun
  split <;> rfl

theorem withoutFirstRun_of_not_star
    {frame : Frame}
    (plain : ¬ ∃ others, frame.constructs = .star :: others) :
    frame.withoutFirstRun = frame := by
  unfold withoutFirstRun
  split
  · rename_i others equal
    exact absurd ⟨others, equal⟩ plain
  · rfl

theorem withoutLastRun_of_not_star
    {frame : Frame}
    (plain : ¬ ∃ others, frame.constructs = others ++ [.star]) :
    frame.withoutLastRun = frame := by
  unfold withoutLastRun
  split
  · rename_i equal
    exact absurd (List.getLast?_eq_some_iff.mp equal) plain
  · rfl

/-- Dropping characters at the beginning drops the first run with its anchor. -/
theorem source_withoutFirstRun (constructs : List Construct) :
    (if leadingRun.isPrefixOf ((whole constructs).source false) then
        ((whole constructs).source false).drop leadingRun.length
      else (whole constructs).source false) =
      (whole constructs).withoutFirstRun.source false := by
  have test : leadingRun.isPrefixOf ((whole constructs).source false) = true ↔
      ∃ others, constructs = .star :: others := by
    rw [List.isPrefixOf_iff_prefix, ← Construct.run_prefix_iff]
    exact List.cons_prefix_cons.trans (and_iff_right rfl)
  by_cases starts : ∃ others, constructs = .star :: others
  · rw [if_pos (test.mpr starts)]
    obtain ⟨others, rfl⟩ := starts
    rfl
  · rw [if_neg fun leads => starts (test.mp leads), withoutFirstRun_of_not_star starts]

/-- Dropping characters at the end drops the last run with its anchor. -/
theorem source_withoutLastRun {frame : Frame} (anchored : frame.finish = true) :
    (if trailingRun.isSuffixOf (frame.source false) then
        (frame.source false).take ((frame.source false).length - trailingRun.length)
      else frame.source false) =
      frame.withoutLastRun.source false := by
  obtain ⟨start, constructs, finish⟩ := frame
  cases anchored
  have whole : source false ⟨start, constructs, true⟩ =
      (if start then ['^'] else []) ++ constructs.flatMap (Construct.source false) ++
        endAnchor := by
    simp [source]
  have test : trailingRun.isSuffixOf (source false ⟨start, constructs, true⟩) = true ↔
      ∃ others, constructs = others ++ [.star] := by
    rw [List.isSuffixOf_iff_suffix, ← Construct.run_suffix_iff start, whole]
    exact List.suffix_append_self_iff
  by_cases ends : ∃ others, constructs = others ++ [.star]
  · rw [if_pos (test.mpr ends)]
    obtain ⟨others, rfl⟩ := ends
    have split : source false ⟨start, others ++ [.star], true⟩ =
        source false ⟨start, others, false⟩ ++ trailingRun := by
      simp [source, trailingRun]
    rw [split, List.length_append, Nat.add_sub_cancel, List.take_left]
    simp [withoutLastRun]
  · rw [if_neg fun trails => ends (test.mp trails), withoutLastRun_of_not_star ends]

/-- A simplification drops whole constructs. -/
theorem simplify_source (constructs : List Construct) :
    simplify ((whole constructs).source false) =
      (simplified constructs).source false := by
  have test : (whole constructs).source false = '^' :: trailingRun ↔
      constructs = [.star] := by
    rw [← Construct.flatMap_source_eq_run_iff]
    change '^' :: (constructs.flatMap (Construct.source false) ++ endAnchor) =
      '^' :: (['.', '*'] ++ endAnchor) ↔ _
    rw [List.cons_inj_right, List.append_left_inj]
  unfold simplify simplified
  by_cases single : constructs = [.star]
  · rw [if_pos (test.mpr single), if_pos single]
    rfl
  · rw [if_neg fun equal => single (test.mp equal), if_neg single]
    simp only [source_withoutFirstRun]
    exact source_withoutLastRun (finish_withoutFirstRun _)

/-! ## What the dropped runs stand for -/

/-- The constructs of a frame, with a run in the place of each anchor that is missing. -/
def completed (frame : Frame) : List Construct :=
  (if frame.start then [] else [.star]) ++
    (frame.constructs ++ if frame.finish then [] else [.star])

@[simp] theorem completed_whole (constructs : List Construct) :
    (whole constructs).completed = constructs := by
  simp [completed, whole]

theorem completed_withoutFirstRun {frame : Frame} (anchored : frame.start = true) :
    frame.withoutFirstRun.completed = frame.completed := by
  unfold withoutFirstRun
  split
  · rename_i others equal
    simp [completed, anchored, equal]
  · rfl

theorem completed_withoutLastRun {frame : Frame} (anchored : frame.finish = true) :
    frame.withoutLastRun.completed = frame.completed := by
  unfold withoutLastRun
  split
  · rename_i equal
    obtain ⟨others, equal⟩ := List.getLast?_eq_some_iff.mp equal
    simp [completed, anchored, equal]
  · rfl

/-- Every dropped run is one that a missing anchor stands for. A single run loses both
of its anchors. -/
theorem completed_simplified (constructs : List Construct) :
    (simplified constructs).completed =
      if constructs = [.star] then [.star, .star] else constructs := by
  unfold simplified
  by_cases single : constructs = [.star]
  · rw [if_pos single, if_pos single]
    rfl
  · rw [if_neg single, if_neg single]
    rw [completed_withoutLastRun (finish_withoutFirstRun _),
      completed_withoutFirstRun rfl, completed_whole]

theorem wellFormed_simplified
    {constructs : List Construct}
    (wellFormed : ∀ construct ∈ constructs, construct.WellFormed) :
    (simplified constructs).WellFormed := by
  intro construct present
  apply wellFormed
  have completed : construct ∈ (simplified constructs).completed := by
    simp [Frame.completed, present]
  rw [completed_simplified] at completed
  split at completed
  · rename_i single
    simpa [single] using completed
  · exact completed

end Frame

/-! ## Sources of patterns -/

theorem body_constructs (capturing : Bool) (constructs : List Construct) :
    body capturing (constructs.flatMap Construct.events) =
      constructs.flatMap (Construct.source capturing) := by
  unfold body
  rw [List.flatMap_assoc]
  rfl

/-- The capturing source keeps both anchors. -/
theorem ofEvents_capturing (constructs : List Construct) :
    ofEvents true (constructs.flatMap Construct.events) =
      (Frame.whole constructs).source true := by
  unfold ofEvents anchored
  rw [body_constructs]
  rfl

/-- The plain source is the simplified one. -/
theorem ofEvents_plain (constructs : List Construct) :
    ofEvents false (constructs.flatMap Construct.events) =
      (Frame.simplified constructs).source false := by
  rw [← Frame.simplify_source]
  unfold ofEvents anchored
  rw [body_constructs]
  rfl

end Regex
end WildcardDiff
