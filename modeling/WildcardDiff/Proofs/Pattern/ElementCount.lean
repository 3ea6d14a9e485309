import Mathlib.Algebra.Ring.Parity
import Mathlib.Data.List.DropRight
import WildcardDiff.Proofs.Pattern.Glyph

/-!
# How many elements a text makes

A text makes at most one element for each of its characters, with one exception. If the
escape character is `*` or `?`, it is read as a wildcard and still counts as an escape
that is to be paired. If the text ends before it is, it becomes a literal as well. In a
text without sets, no other character makes up for that element.
-/

namespace WildcardDiff

namespace Event

/-- Whether an event makes an element. -/
def makesElement : Event → Bool
  | .star => true
  | .question => true
  | .setClose => true
  | .literal _ => true
  | _ => false

end Event

/-- Events make one element each, or none. -/
theorem Element.length_ofEventsFrom
    (options : Options)
    (set : CharSet)
    (events : List Event) :
    (ofEventsFrom options set events).length = events.countP Event.makesElement := by
  fun_induction ofEventsFrom options set events <;>
    simp_all [Event.makesElement, List.countP_cons]

/-- A pattern has an element for each event that makes one. -/
theorem Pattern.length_elements (pattern : Pattern) :
    pattern.elements.length = pattern.events.countP Event.makesElement :=
  Element.length_ofEventsFrom _ _ _

namespace Construct

/-- A construct makes one element. -/
theorem countP_makesElement (construct : Construct) :
    construct.events.countP Event.makesElement = 1 := by
  cases construct with
  | set choices =>
      have silent : (choices.map Choice.event).countP Event.makesElement = 0 := by
        rw [List.countP_eq_zero, List.forall_mem_map]
        intro choice _
        cases choice <;> simp [Choice.event, Event.makesElement]
      simp [events, Event.makesElement, List.countP_cons, silent]
  | _ => rfl

/-- A set opens once. -/
theorem count_setOpen_set (choices : List Choice) :
    (Construct.set choices).events.count .setOpen = 1 := by
  have silent : Event.setOpen ∉ choices.map Choice.event := by
    rw [List.mem_map]
    rintro ⟨choice, _, same⟩
    cases choice <;> cases same
  simp [events, List.count_eq_zero_of_not_mem silent]

end Construct

/-- The number of elements that an escape character makes later on, as long as it is
still to be paired: none if it was read as a wildcard. -/
def keptBack (escape : Option Char) : Nat :=
  if escape = some '*' ∨ escape = some '?' then 0 else 1

theorem keptBack_le_one (escape : Option Char) : keptBack escape ≤ 1 := by
  unfold keptBack
  split <;> omega

theorem wildcard_of_keptBack_eq_zero {escape : Option Char} (none : keptBack escape = 0) :
    escape = some '*' ∨ escape = some '?' := by
  unfold keptBack at none
  by_contra ordinary
  rw [if_neg ordinary] at none
  cases none

/-- What is kept back at the end of a reading. -/
def Ending.keptBack : Ending → Nat
  | .dangling char => WildcardDiff.keptBack (some char)
  | _ => 0

/-- What was read and has made no element yet: an escape that was kept back, or the
opening bracket of a set and its members. -/
def Scope.keptBack (escape : Option Char) (escaping : Bool) : Scope → Nat
  | .outside => if escaping then WildcardDiff.keptBack escape else 0
  | .inside _ members => members.length + 1

theorem Scope.keptBack_outside_le (escape : Option Char) (escaping : Bool) :
    Scope.outside.keptBack escape escaping ≤ 1 := by
  rw [keptBack]
  split
  · exact keptBack_le_one escape
  · exact Nat.zero_le 1

theorem Scope.keptBack_outside_false (escape : Option Char) :
    Scope.outside.keptBack escape false = 0 := rfl

/-- An escape that was read as a wildcard is not kept back. -/
theorem Scope.keptBack_outside_eq_zero
    {escape : Option Char}
    {escaping : Bool}
    (wildcard : escaping = true → escape = some '*' ∨ escape = some '?') :
    Scope.outside.keptBack escape escaping = 0 := by
  rw [keptBack]
  split
  · rename_i pending
    exact if_pos (wildcard pending)
  · rfl

namespace Reading

variable {reading : Reading}

theorem countP_events_cons {event : Event} (makes : event.makesElement = true) :
    (reading.cons event).events.countP Event.makesElement =
      reading.events.countP Event.makesElement + 1 :=
  List.countP_cons_of_pos makes

/-- The elements and sets of a reading, and what is kept back at its end. -/
def bulk (reading : Reading) : Nat :=
  reading.events.countP Event.makesElement + reading.events.count .setOpen +
    reading.ending.keptBack

theorem bulk_cons {event : Event} (makes : event.makesElement = true) :
    (reading.cons event).bulk = reading.bulk + 1 := by
  have other : event ≠ .setOpen := by
    rintro rfl
    cases makes
  have opens : (reading.cons event).events.count .setOpen =
      reading.events.count .setOpen :=
    List.count_cons_of_ne other
  have ending : (reading.cons event).ending = reading.ending := rfl
  rw [bulk, bulk, countP_events_cons makes, opens, ending]
  omega

theorem bulk_set
    {members : List Member}
    {following : Reading}
    (read : (Reading.set members following).ending ≠ .failed) :
    (Reading.set members following).bulk = following.bulk + 2 := by
  rw [set_eq_of_ne_failed read]
  simp only [bulk, List.countP_append, List.count_append, Construct.countP_makesElement,
    Construct.count_setOpen_set]
  omega

end Reading

/-- The elements and sets of a reading are no more than its characters, even with what
it keeps back at its end. -/
theorem bulk_scan_le
    {escape : Option Char}
    {scope : Scope}
    {escaping : Bool}
    {text : Text}
    (possible : scope.Possible escaping)
    (read : (scan escape scope escaping text).ending ≠ .failed) :
    (scan escape scope escaping text).bulk ≤
      text.length + scope.keptBack escape escaping := by
  -- What was kept back makes up for a character that adds two at once: the end of a
  -- set, or an escape that becomes a literal when nothing follows it.
  fun_induction scan escape scope escaping text with
  | case1 char escapes =>
      subst escapes
      simp [Reading.bulk, Ending.keptBack, Scope.keptBack]
  | case2 => simp [Reading.bulk, Ending.keptBack]
  | case3 => exact absurd rfl read
  | case4 char rest inductionHypothesis =>
      have shorter := inductionHypothesis trivial read
      rw [Scope.keptBack_outside_false] at shorter
      rw [Reading.bulk_cons rfl, List.length_cons]
      omega
  | case5 rest escapes inductionHypothesis =>
      have shorter := inductionHypothesis trivial read
      rw [Scope.keptBack_outside_eq_zero fun star => .inl (of_decide_eq_true star)]
        at shorter
      rw [Reading.bulk_cons rfl, List.length_cons]
      omega
  | case6 rest escapes _ inductionHypothesis =>
      have shorter := inductionHypothesis trivial read
      rw [Scope.keptBack_outside_eq_zero fun question =>
        .inr (of_decide_eq_true question)]
        at shorter
      rw [Reading.bulk_cons rfl, List.length_cons]
      omega
  | case7 rest escapes _ _ inductionHypothesis =>
      have shorter := inductionHypothesis (fun _ => .inl rfl) read
      simp only [Scope.keptBack, List.length_nil, List.length_cons] at shorter ⊢
      omega
  | case8 char rest escapes _ _ _ _ inductionHypothesis =>
      have shorter := inductionHypothesis trivial read
      have one := Scope.keptBack_outside_le escape true
      rw [List.length_cons]
      omega
  | case9 char rest escapes _ _ _ _ inductionHypothesis =>
      have shorter := inductionHypothesis trivial read
      rw [Scope.keptBack_outside_false] at shorter
      rw [Reading.bulk_cons rfl, List.length_cons]
      omega
  | case10 justOpened members char rest inductionHypothesis =>
      have shorter := inductionHypothesis (fun empty => by simp at empty) read
      simp only [Scope.keptBack, List.length_append, List.length_cons, List.length_nil]
        at shorter ⊢
      omega
  | case11 justOpened members char rest escapes closes inductionHypothesis =>
      -- The member that such a set has makes up for its closing bracket being the escape.
      have inhabited := List.length_pos_iff.mpr (possible.ne_nil closes.2)
      have after : (scan escape .outside (decide escapes) rest).ending ≠ .failed := by
        rw [Reading.set_eq_of_ne_failed read] at read
        exact read
      have shorter := inductionHypothesis trivial after
      have one := Scope.keptBack_outside_le escape (decide escapes)
      rw [Reading.bulk_set read, List.length_cons]
      change _ ≤ rest.length + 1 + (members.length + 1)
      omega
  | case12 justOpened members char rest escapes _ _ inductionHypothesis =>
      have shorter := inductionHypothesis (fun _ => .inr rfl) read
      simp only [Scope.keptBack, List.length_cons] at shorter ⊢
      omega
  | case13 justOpened members char rest escapes _ _ inductionHypothesis =>
      have shorter := inductionHypothesis (fun empty => by simp at empty) read
      simp only [Scope.keptBack, List.length_append, List.length_cons, List.length_nil]
        at shorter ⊢
      omega

section

variable {mark : Char} {scope : Scope} {escaping : Bool} {text : Text}

/-- Without sets, an escape that is read as a wildcard leaves no character without an
element. -/
theorem length_le_countP_scan
    (wildcard : mark = '*' ∨ mark = '?')
    (read : (scan (some mark) scope escaping text).ending ≠ .failed)
    (noSet : .setOpen ∉ (scan (some mark) scope escaping text).events) :
    scope = .outside ∧
      text.length ≤ (scan (some mark) scope escaping text).events.countP
        Event.makesElement := by
  fun_induction scan (some mark) scope escaping text with
  | case1 char => exact ⟨rfl, Nat.zero_le _⟩
  | case2 => exact ⟨rfl, Nat.zero_le _⟩
  | case3 => exact absurd rfl read
  | case4 char rest inductionHypothesis =>
      have others := List.not_mem_of_not_mem_cons noSet
      rw [Reading.countP_events_cons rfl]
      exact ⟨rfl, Nat.succ_le_succ (inductionHypothesis read others).2⟩
  | case5 rest escapes inductionHypothesis =>
      have others := List.not_mem_of_not_mem_cons noSet
      rw [Reading.countP_events_cons rfl]
      exact ⟨rfl, Nat.succ_le_succ (inductionHypothesis read others).2⟩
  | case6 rest escapes _ inductionHypothesis =>
      have others := List.not_mem_of_not_mem_cons noSet
      rw [Reading.countP_events_cons rfl]
      exact ⟨rfl, Nat.succ_le_succ (inductionHypothesis read others).2⟩
  | case7 rest escapes _ _ inductionHypothesis => cases (inductionHypothesis read noSet).1
  | case8 char rest escapes star question _ escaped inductionHypothesis =>
      have same : mark = char := Option.some.inj escaped
      rw [same] at wildcard
      exact (wildcard.elim star question).elim
  | case9 char rest escapes _ _ _ _ inductionHypothesis =>
      have others := List.not_mem_of_not_mem_cons noSet
      rw [Reading.countP_events_cons rfl]
      exact ⟨rfl, Nat.succ_le_succ (inductionHypothesis read others).2⟩
  | case10 justOpened members char rest inductionHypothesis =>
      cases (inductionHypothesis read noSet).1
  | case11 justOpened members char rest escapes closes inductionHypothesis =>
      rw [Reading.set_eq_of_ne_failed read] at noSet
      exact absurd List.mem_cons_self noSet
  | case12 justOpened members char rest escapes _ _ inductionHypothesis =>
      cases (inductionHypothesis read noSet).1
  | case13 justOpened members char rest escapes _ _ inductionHypothesis =>
      cases (inductionHypothesis read noSet).1

/-- Whether a mark is still to be paired after a text, before which one is to be paired if
`escaping` holds. -/
def leavesUnpaired (mark : Char) (escaping : Bool) (text : Text) : Bool :=
  text.foldl (fun escaping char => !escaping && some mark = some char) escaping

theorem leavesUnpaired_cons_false (mark char : Char) (rest : Text) :
    leavesUnpaired mark false (char :: rest) =
      leavesUnpaired mark (some mark = some char) rest := rfl

/-- A mark is still to be paired exactly if an odd number of them stands at the end. -/
theorem leavesUnpaired_iff (mark : Char) (text : Text) :
    leavesUnpaired mark false text = true ↔ Odd (text.rtakeWhile (· = mark)).length := by
  induction text using List.reverseRecOn with
  | nil => simp [leavesUnpaired]
  | append_singleton front last inductionHypothesis =>
      unfold leavesUnpaired at inductionHypothesis ⊢
      rw [List.foldl_append, List.rtakeWhile_concat]
      by_cases same : last = mark
      · simp [same, Nat.odd_add_one, ← inductionHypothesis]
      · simp [same, Ne.symm same]

/-- A reading leaves an escape to be paired exactly if its text does. -/
theorem ending_scan (read : (scan (some mark) scope escaping text).ending ≠ .failed) :
    (scan (some mark) scope escaping text).ending =
      if leavesUnpaired mark escaping text then .dangling mark else .complete := by
  fun_induction scan (some mark) scope escaping text with
  | case1 char escapes =>
      obtain rfl := Option.some.inj escapes
      rfl
  | case2 escaping unpaired => exact (if_neg (unpaired mark rfl)).symm
  | case3 => exact absurd rfl read
  | case4 char rest inductionHypothesis => exact inductionHypothesis read
  | case5 rest escapes inductionHypothesis => exact inductionHypothesis read
  | case6 rest escapes _ inductionHypothesis => exact inductionHypothesis read
  | case7 rest escapes _ _ inductionHypothesis => exact inductionHypothesis read
  | case8 char rest escapes _ _ _ escaped inductionHypothesis =>
      rw [leavesUnpaired_cons_false, decide_eq_true escaped]
      exact inductionHypothesis read
  | case9 char rest escapes _ _ _ plain inductionHypothesis =>
      rw [leavesUnpaired_cons_false, decide_eq_false plain]
      exact inductionHypothesis read
  | case10 justOpened members char rest inductionHypothesis =>
      exact inductionHypothesis read
  | case11 justOpened members char rest escapes _ inductionHypothesis =>
      rw [Reading.set_eq_of_ne_failed read]
      rw [Reading.set_eq_of_ne_failed read] at read
      exact inductionHypothesis read
  | case12 justOpened members char rest escapes _ escaped inductionHypothesis =>
      rw [leavesUnpaired_cons_false, decide_eq_true escaped]
      exact inductionHypothesis read
  | case13 justOpened members char rest escapes _ plain inductionHypothesis =>
      rw [leavesUnpaired_cons_false, decide_eq_false plain]
      exact inductionHypothesis read

end

namespace Pattern

/-- The reading of a pattern before an escape at its end becomes a literal. -/
def scanned (pattern : Pattern) : Reading :=
  scan pattern.escape .outside false pattern.text

variable (pattern : Pattern)

theorem ending_scanned_ne_failed : pattern.scanned.ending ≠ .failed := by
  obtain ⟨complete, -⟩ := events?_eq_some_iff.mp pattern.reads
  intro failed
  rw [scanned] at failed
  simp [Reading.ofText, failed] at complete

theorem bulk_scanned_le : pattern.scanned.bulk ≤ pattern.text.length :=
  bulk_scan_le trivial pattern.ending_scanned_ne_failed

/-- A pattern has the events that were read, and a literal for an escape that is left at
the end of a text with more than that. -/
theorem events_eq_scanned_or :
    (pattern.events = pattern.scanned.events ∧
        ∀ mark, pattern.scanned.ending = .dangling mark → pattern.text = [mark]) ∨
      ∃ mark, pattern.scanned.ending = .dangling mark ∧ pattern.text ≠ [mark] ∧
        pattern.events = pattern.scanned.events ++ [.literal mark] := by
  obtain ⟨-, events⟩ := events?_eq_some_iff.mp pattern.reads
  rw [← events, Reading.ofText]
  cases ending : pattern.scanned.ending with
  | dangling mark =>
      simp only [scanned] at ending ⊢
      rw [ending]
      by_cases alone : pattern.text = [mark] <;> simp [alone]
  | complete | failed =>
      simp only [scanned] at ending ⊢
      simp [ending]

variable {pattern}

/-- An escape is left at the end exactly if an odd number of them stands there. -/
theorem ending_scanned_eq_dangling_iff {mark : Char} :
    pattern.scanned.ending = .dangling mark ↔
      pattern.escape = some mark ∧ Odd (pattern.text.rtakeWhile (· = mark)).length := by
  have read := pattern.ending_scanned_ne_failed
  rw [← leavesUnpaired_iff]
  unfold scanned at read ⊢
  constructor
  · intro dangling
    have escapes := eq_of_ending_scan_dangling dangling
    rw [escapes] at read dangling
    rw [ending_scan read] at dangling
    refine ⟨escapes, ?_⟩
    by_contra paired
    rw [if_neg paired] at dangling
    cases dangling
  · rintro ⟨escapes, unpaired⟩
    rw [escapes] at read ⊢
    rw [ending_scan read, if_pos unpaired]

/-- An escape that is left at the end makes an element too many exactly if it is read as a
wildcard and no set makes up for it. -/
theorem length_lt_countP_scanned_iff
    {mark : Char}
    (dangling : pattern.scanned.ending = .dangling mark) :
    pattern.text.length < pattern.scanned.events.countP Event.makesElement + 1 ↔
      (mark = '*' ∨ mark = '?') ∧ .setOpen ∉ pattern.scanned.events := by
  have read := pattern.ending_scanned_ne_failed
  have bulk := pattern.bulk_scanned_le
  rw [Reading.bulk, dangling, Ending.keptBack] at bulk
  constructor
  · intro more
    have noSet : pattern.scanned.events.count .setOpen = 0 := by omega
    have none : keptBack (some mark) = 0 := by omega
    refine ⟨?_, List.count_eq_zero.mp noSet⟩
    simpa using wildcard_of_keptBack_eq_zero none
  · rintro ⟨wildcard, noSet⟩
    obtain ⟨escapes, -⟩ := ending_scanned_eq_dangling_iff.mp dangling
    unfold scanned at read noSet ⊢
    rw [escapes] at read noSet ⊢
    exact Nat.lt_succ_of_le (length_le_countP_scan wildcard read noSet).2

/-- A pattern has at most one element more than its text has characters. It has one more
exactly if its escape character is `*` or `?`, an odd number of them stands at the end
of a text with more than that, and there is no set. -/
theorem length_elements_le_iff (pattern : Pattern) :
    pattern.elements.length ≤ pattern.text.length + 1 ∧
      (pattern.elements.length ≤ pattern.text.length ↔
        ¬∃ mark, pattern.escape = some mark ∧ (mark = '*' ∨ mark = '?') ∧
          pattern.text ≠ [mark] ∧ .setOpen ∉ pattern.events ∧
          Odd (pattern.text.rtakeWhile (· = mark)).length) := by
  have bulk := pattern.bulk_scanned_le
  unfold Reading.bulk at bulk
  rw [length_elements]
  obtain ⟨events, alone⟩ | ⟨mark, dangling, other, events⟩ := pattern.events_eq_scanned_or
  · rw [events]
    refine ⟨by omega, iff_of_true (by omega) ?_⟩
    rintro ⟨mark, escapes, -, other, -, odd⟩
    exact other (alone mark (ending_scanned_eq_dangling_iff.mpr ⟨escapes, odd⟩))
  · obtain ⟨escapes, odd⟩ := ending_scanned_eq_dangling_iff.mp dangling
    have count : pattern.events.countP Event.makesElement =
        pattern.scanned.events.countP Event.makesElement + 1 := by
      rw [events, List.countP_append]
      rfl
    have opens : .setOpen ∉ pattern.events ↔ .setOpen ∉ pattern.scanned.events := by
      simp [events]
    rw [count, opens]
    refine ⟨by omega, ?_⟩
    rw [← not_lt, length_lt_countP_scanned_iff dangling]
    refine not_congr ⟨?_, ?_⟩
    · rintro ⟨wildcard, noSet⟩
      exact ⟨mark, escapes, wildcard, other, noSet, odd⟩
    · rintro ⟨char, same, wildcard, -, noSet, -⟩
      obtain rfl := Option.some.inj (same.symm.trans escapes)
      exact ⟨wildcard, noSet⟩

/-- The escape `*` at the end of a text is read as a wildcard and becomes a literal as
well. -/
theorem length_elements_star_escape :
    ∃ pattern : Pattern, build "a*".toList (some '*') .none = .ok pattern ∧
      pattern.elements = [.literal ['a'], .anyRun, .literal ['*']] ∧
      ¬pattern.elements.length ≤ "a*".toList.length :=
  ⟨⟨"a*".toList, some '*', .none, [.literal 'a', .star, .literal '*'], by decide, by
    decide⟩, rfl, by decide, by decide⟩

end Pattern

end WildcardDiff
