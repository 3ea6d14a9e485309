import WildcardDiff.Proofs.Diff.Outcome
import WildcardDiff.Proofs.Regex.Groups

/-!
# The verdict on a line

Whether a line matches is decided by the elements of its pattern before captures are
looked for, and what becomes of the captures changes nothing about it. A line that
matches has one capture for each wildcard, be it a part of the line or a placeholder,
and nothing else is said about it; a line that does not match has none, and the reason
is that it does not match.
-/

namespace WildcardDiff
namespace Analyzer

variable {analyzer : Analyzer} {pattern : Pattern} {expected actual : Text}

/-- There is a capture for each wildcard, whether captures are recovered or not. -/
theorem length_captured
    (genuine : ∀ groups, analyzer.extract pattern actual = .captured groups →
      pattern.extract actual = .captured groups) :
    (analyzer.captured pattern actual).length = pattern.wildcardCount := by
  unfold captured
  cases extracted : analyzer.extract pattern actual with
  | captured groups =>
      rw [List.length_map]
      exact Pattern.length_of_extract (genuine groups extracted)
  | notCompiled message => exact List.length_replicate
  | noMatch => exact List.length_replicate

/-- The comparison of a line with an accepted pattern succeeds with the verdict of the
elements. The captures of a line that matches are as many as the wildcards, whether the
capturing regular expression cannot be compiled, does not match, or captures what it
does. -/
theorem matchLine_settles
    (number : Int)
    (accepted : analyzer.patternOf expected = .ok pattern)
    (genuine : ∀ groups, analyzer.extract pattern actual = .captured groups →
      pattern.extract actual = .captured groups) :
    ∃ line, (analyzer.matchLine number expected actual).Gives (.ok line) ∧
      line.isMatch = pattern.matchElements actual ∧
      (line.isMatch = true →
        line.captures.length = pattern.wildcardCount ∧ line.reason = none ∧
        line.hint = none) ∧
      (line.isMatch = false →
        line.captures = [] ∧
        line.reason = some MismatchReason.patternMismatch.message) := by
  refine ⟨analyzer.lineOutcome number pattern expected actual,
    gives_matchLine accepted, ?_⟩
  rw [isMatch_lineOutcome, ← pattern.isMatch_eq_matchElements]
  refine ⟨rfl, fun matched => ?_, fun mismatched => ?_⟩
  · rw [lineOutcome, if_pos matched]
    exact ⟨length_captured genuine, rfl, rfl⟩
  · rw [lineOutcome, if_neg (Bool.eq_false_iff.mp mismatched)]
    exact ⟨rfl, rfl⟩

/-- A bracket and parentheses that are literal, a run and a set. The captures are two
when they are recovered, and two when the capturing regular expression cannot be
compiled. -/
theorem matchLine_settles_example :
    ∃ pattern : Pattern, pattern.wildcardCount = 2 ∧
      pattern.matchElements "[(x)y)b".toList = true ∧
      ∀ analyzer ∈
          [({} : Analyzer), { extract := fun _ _ => .notCompiled "boom".toList }],
        analyzer.patternOf "\\[(*)[ab]".toList = .ok pattern ∧
          ∃ line, (analyzer.matchLine 7 "\\[(*)[ab]".toList "[(x)y)b".toList).Gives
            (.ok line) ∧
            line.isMatch = true ∧ line.captures.length = 2 ∧ line.reason = none ∧
            line.hint = none := by
  let pattern : Pattern :=
    ⟨"\\[(*)[ab]".toList, some '\\', .none,
      [.literal '[', .literal '(', .star, .literal ')', .setOpen, .setMember 'a',
        .setMember 'b', .setClose],
      by decide, by decide⟩
  have matched : pattern.matchElements "[(x)y)b".toList = true := by decide +kernel
  refine ⟨pattern, rfl, matched, ?_⟩
  intro analyzer listed
  have accepted : analyzer.patternOf "\\[(*)[ab]".toList = .ok pattern := by
    rcases List.mem_pair.mp listed with rfl | rfl
    · exact rfl
    · exact rfl
  have genuine : ∀ groups, analyzer.extract pattern "[(x)y)b".toList = .captured groups →
      pattern.extract "[(x)y)b".toList = .captured groups := by
    rcases List.mem_pair.mp listed with rfl | rfl
    · exact fun groups extracted => extracted
    · exact fun groups extracted => by cases extracted
  obtain ⟨line, gives, verdict, captures, -⟩ := matchLine_settles 7 accepted genuine
  exact ⟨accepted, line, gives, verdict.trans matched, captures (verdict.trans matched)⟩

end Analyzer
end WildcardDiff
