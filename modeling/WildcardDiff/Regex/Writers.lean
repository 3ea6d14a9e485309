import WildcardDiff.Regex.Source
import WildcardDiff.Pattern.Dos

/-!
# Writers

Writers receive the events of a reading one by one. A writer of regular expressions
gathers the source in a draft and publishes it when the reading is complete, so that a
failed reading leaves the source published before. Writers of DOS wildcards and records
of events show what they have received at any time. All of them can be used for one
reading after another.
-/

namespace WildcardDiff

/-- A writer of regular expressions. -/
structure RegexWriter where
  capturing : Bool
  /-- What the present reading has added so far. -/
  draft : Text
  /-- The source that the last complete reading gave. -/
  published : Text
  deriving DecidableEq

namespace RegexWriter

/-- A writer that has received nothing. -/
def fresh (capturing : Bool) : RegexWriter :=
  ⟨capturing, [], []⟩

/-- Begin a reading. -/
def start (writer : RegexWriter) : RegexWriter :=
  { writer with draft := [] }

/-- Receive an event. -/
def receive (writer : RegexWriter) (event : Event) : RegexWriter :=
  { writer with draft := writer.draft ++ event.regex writer.capturing }

/-- End a complete reading. -/
def finish (writer : RegexWriter) : RegexWriter :=
  { writer with published := Regex.anchored writer.capturing writer.draft }

end RegexWriter

/-- The four writers that a reading is given to together. -/
structure Writers where
  plain : RegexWriter
  capturing : RegexWriter
  dos : Text
  recorded : List Event
  deriving DecidableEq

namespace Writers

/-- Writers that have received nothing. -/
def fresh : Writers :=
  ⟨.fresh false, .fresh true, [], []⟩

/-- Begin a reading in all writers. -/
def start (writers : Writers) : Writers :=
  ⟨writers.plain.start, writers.capturing.start, [], []⟩

/-- Give an event to all writers. -/
def receive (writers : Writers) (event : Event) : Writers :=
  ⟨writers.plain.receive event, writers.capturing.receive event,
    writers.dos ++ event.dos, writers.recorded ++ [event]⟩

/-- Give several events to all writers. -/
def receiveAll (writers : Writers) (events : List Event) : Writers :=
  ⟨{ writers.plain with
      draft := writers.plain.draft ++ Regex.body writers.plain.capturing events },
    { writers.capturing with
      draft := writers.capturing.draft ++ Regex.body writers.capturing.capturing events },
    writers.dos ++ events.flatMap Event.dos, writers.recorded ++ events⟩

/-- Several events are received one after the other. -/
theorem receiveAll_eq (writers : Writers) (events : List Event) :
    writers.receiveAll events = events.foldl receive writers := by
  induction events generalizing writers with
  | nil => simp [receiveAll, Regex.body]
  | cons event events step =>
    simp [← step, receiveAll, receive, RegexWriter.receive, Regex.body]

/-- End a complete reading in all writers. -/
def finish (writers : Writers) : Writers :=
  { writers with plain := writers.plain.finish, capturing := writers.capturing.finish }

/-- Give the reading of a text to all writers. The second component tells whether the
reading is complete. -/
def read (writers : Writers) (escape : Option Char) (text : Text) : Writers × Bool :=
  let reading := Reading.ofText escape text
  let received := writers.start.receiveAll reading.events
  if reading.ending = .complete then (received.finish, true) else (received, false)

end Writers
end WildcardDiff
