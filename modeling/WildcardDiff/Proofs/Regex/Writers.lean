import WildcardDiff.Regex.Writers
import WildcardDiff.Proofs.Pattern.Construct
import Mathlib.Data.List.Induction

/-!
# Writers that are used again

The same writers receive one reading after another, of which some fail halfway. Each
writer forgets the draft of the last reading when the next one begins, so that a
complete reading leaves it as it would leave a fresh one. A reading that fails publishes
nothing: the writers of regular expressions keep what they published before, while the
others show what the failed reading came to.
-/

namespace WildcardDiff

/-! ## One writer -/

namespace RegexWriter

/-- Give the reading of a text to a writer alone. -/
def read (writer : RegexWriter) (escape : Option Char) (text : Text) : RegexWriter :=
  let reading := Reading.ofText escape text
  let received := reading.events.foldl receive writer.start
  if reading.ending = .complete then received.finish else received

theorem foldl_receive (writer : RegexWriter) (events : List Event) :
    events.foldl receive writer =
      { writer with draft := writer.draft ++ Regex.body writer.capturing events } := by
  induction events generalizing writer with
  | nil => simp [Regex.body]
  | cons event events inductionHypothesis =>
      rw [List.foldl_cons, inductionHypothesis]
      simp [receive, Regex.body]

variable (writer : RegexWriter) {escape : Option Char} {text : Text} {events : List Event}

/-- A complete reading leaves nothing of what a writer held before, except its form. -/
theorem read_of_complete (complete : events? escape text = some events) :
    writer.read escape text =
      ⟨writer.capturing, Regex.body writer.capturing events,
        Regex.ofEvents writer.capturing events⟩ := by
  obtain ⟨ending, rfl⟩ := events?_eq_some_iff.mp complete
  unfold read
  rw [if_pos ending, foldl_receive]
  rfl

/-- A reading that fails publishes nothing. -/
theorem read_of_failed (failed : events? escape text = none) :
    writer.read escape text =
      { writer with
        draft := Regex.body writer.capturing (Reading.ofText escape text).events } := by
  unfold read
  rw [if_neg (events?_eq_none_iff.mp failed), foldl_receive]
  rfl

@[simp] theorem capturing_read :
    (writer.read escape text).capturing = writer.capturing := by
  cases read : events? escape text with
  | some events => rw [read_of_complete writer read]
  | none => rw [read_of_failed writer read]

end RegexWriter

/-! ## All writers -/

namespace Writers

variable (writers : Writers) {escape : Option Char} {text : Text} {events : List Event}

/-- A reading that is given to all writers is given to each of them alone. -/
theorem read_eq (escape : Option Char) (text : Text) :
    writers.read escape text =
      (⟨writers.plain.read escape text, writers.capturing.read escape text,
        (Reading.ofText escape text).events.flatMap Event.dos,
        (Reading.ofText escape text).events⟩,
        (events? escape text).isSome) := by
  unfold read RegexWriter.read events?
  simp only [RegexWriter.foldl_receive]
  split <;> rfl

/-- A text with its escape character, as a reading begins with it. -/
structure Call where
  escape : Option Char
  text : Text
  deriving DecidableEq

/-- Give the readings of several texts to the same writers, one after the other. -/
def readAll (writers : Writers) (calls : List Call) : Writers :=
  calls.foldl (fun current call => (current.read call.escape call.text).1) writers

/-- What writers hold of the events of a complete reading. -/
structure Hold (writers : Writers) (events : List Event) : Prop where
  plain : writers.plain.published = Regex.ofEvents false events
  capturing : writers.capturing.published = Regex.ofEvents true events
  dos : writers.dos = events.flatMap Event.dos
  recorded : writers.recorded = events

/-- Readings do not change the form in which a writer publishes. -/
theorem forms_readAll (calls : List Call) :
    (writers.readAll calls).plain.capturing = writers.plain.capturing ∧
      (writers.readAll calls).capturing.capturing = writers.capturing.capturing := by
  induction calls generalizing writers with
  | nil => exact ⟨rfl, rfl⟩
  | cons call calls inductionHypothesis =>
      have others := inductionHypothesis (writers.read call.escape call.text).1
      simpa [readAll, read_eq] using others

/-- What the writers of regular expressions show after several readings comes from the
last one that was complete. -/
theorem published_readAll (calls : List Call) :
    (fresh.readAll calls).plain.published =
        ((calls.filterMap fun call => events? call.escape call.text).getLast?.elim []
          (Regex.ofEvents false)) ∧
      (fresh.readAll calls).capturing.published =
        ((calls.filterMap fun call => events? call.escape call.text).getLast?.elim []
          (Regex.ofEvents true)) := by
  induction calls using List.reverseRecOn with
  | nil => exact ⟨rfl, rfl⟩
  | append_singleton calls call inductionHypothesis =>
      obtain ⟨plain, capturing⟩ := fresh.forms_readAll calls
      have last : fresh.readAll (calls ++ [call]) =
          ((fresh.readAll calls).read call.escape call.text).1 := by
        simp [readAll]
      rw [last, read_eq, List.filterMap_append, List.filterMap_cons, List.filterMap_nil]
      cases outcome : events? call.escape call.text with
      | some events =>
          rw [RegexWriter.read_of_complete _ outcome,
            RegexWriter.read_of_complete _ outcome, plain, capturing]
          simp [fresh, RegexWriter.fresh]
      | none =>
          rw [RegexWriter.read_of_failed _ outcome, RegexWriter.read_of_failed _ outcome]
          simpa using inductionHypothesis

/-- Writers that were given any readings before, complete or not, are given one more. If
it is complete, they hold exactly what fresh writers would hold. If it fails, the
writers of regular expressions still show what they showed before, while the other two
hold what fresh ones would hold after the same failure. -/
theorem read_after_calls (calls : List Call) (call : Call) :
    let before := fresh.readAll calls
    let after := before.read call.escape call.text
    let anew := fresh.read call.escape call.text
    match events? call.escape call.text with
    | some events => after = anew ∧ after.2 = true ∧ after.1.Hold events
    | none =>
        after.2 = false ∧ anew.2 = false ∧
          after.1.plain.published = before.plain.published ∧
          after.1.capturing.published = before.capturing.published ∧
          after.1.dos = anew.1.dos ∧ after.1.recorded = anew.1.recorded ∧
          anew.1.recorded = (Reading.ofText call.escape call.text).events ∧
          anew.1.dos = anew.1.recorded.flatMap Event.dos := by
  intro before after anew
  obtain ⟨plain, capturing⟩ := fresh.forms_readAll calls
  have after_eq : after = before.read call.escape call.text := rfl
  have anew_eq : anew = fresh.read call.escape call.text := rfl
  rw [read_eq] at after_eq anew_eq
  cases outcome : events? call.escape call.text with
  | some events =>
      obtain ⟨-, recorded⟩ := events?_eq_some_iff.mp outcome
      rw [RegexWriter.read_of_complete _ outcome, RegexWriter.read_of_complete _ outcome,
        recorded, outcome] at after_eq anew_eq
      rw [plain, capturing] at after_eq
      refine ⟨after_eq.trans anew_eq.symm, ?_, ?_⟩
      · rw [after_eq]
        rfl
      · rw [after_eq]
        exact ⟨rfl, rfl, rfl, rfl⟩
  | none =>
      rw [RegexWriter.read_of_failed _ outcome, RegexWriter.read_of_failed _ outcome,
        outcome] at after_eq anew_eq
      rw [after_eq, anew_eq]
      exact ⟨rfl, rfl, rfl, rfl, rfl, rfl, rfl, rfl⟩

/-- A reading that fails within a set, after a complete one. -/
example :
    let used := fresh.readAll [⟨none, "a?".toList⟩, ⟨none, "x[c-a]".toList⟩]
    used.plain.published = "^a.\\Z".toList ∧
    used.capturing.published = "^a(.)\\Z".toList ∧
      used.dos = ['x'] ∧ used.recorded = [.literal 'x', .setOpen] := by
  decide

end Writers
end WildcardDiff
