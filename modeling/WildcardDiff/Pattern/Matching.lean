import WildcardDiff.Pattern.Element
import WildcardDiff.Pattern.Frontier

/-!
# Matching

A sequence of symbols is matched by elements in one pass. At each place of the sequence
a frontier holds the pattern positions that some way of matching the symbols so far
reaches. A literal, `?` or set that fits the next symbol moves its position on, to the
next place; a run passes its position on at the same place and keeps it for the next.
The whole sequence matches when the position after the last element is reached at its
end.

The pass uses two frontiers in turn. It keeps a list of the pairs of pattern position
and place that it visits, which measures its work. Which symbols an element takes is
left open, so that the pass serves texts and other sequences alike.
-/

namespace WildcardDiff

/-- What an element does with a symbol, or with the end of the sequence. -/
inductive Move
  /-- The element does not fit. -/
  | stop
  /-- The element takes the symbol. -/
  | advance
  /-- The element is a run: it may end here, and may go on. -/
  | linger
  deriving DecidableEq

/-- The move of an element at a symbol that it takes or not. -/
def Element.move (takes : Element -> Bool) : Element -> Move
  | .anyRun => .linger
  | element => if takes element then .advance else .stop

/-- The move of an element at the end of the sequence. -/
def Element.moveAtEnd : Element -> Move
  | .anyRun => .linger
  | _ => .stop

namespace Matching

/-- The two frontiers after the visits of one place, and the positions visited, the latest
first. -/
structure Sweep where
  current : Frontier
  following : Frontier
  visited : List Nat

/-- Visit the pending positions of a place until none is left. -/
def sweep
    (move : Nat -> Move)
    (current following : Frontier)
    (visited : List Nat) : Sweep :=
  match _pending : current.pending with
  | [] => ⟨current, following, visited⟩
  | position :: rest =>
      let popped : Frontier := { current with pending := rest }
      match move position with
      | .stop => sweep move popped following (position :: visited)
      | .advance => sweep move popped (following.add (position + 1)) (position :: visited)
      | .linger =>
          sweep move (popped.add (position + 1)) (following.add position)
            (position :: visited)
termination_by current.weight
decreasing_by
  · exact Frontier.weight_pop_lt _pending
  · exact Frontier.weight_pop_lt _pending
  · exact Nat.lt_of_le_of_lt (Frontier.weight_add_le _ _)
      (Frontier.weight_pop_lt _pending)

/-- The outcome of a pass, and the pairs of position and place that it visited, the latest
first. -/
structure Run where
  matched : Bool
  visited : List (Nat × Nat)

/-- The move at a pattern position, which holds an element whenever it is queued. -/
def moveAt (elements : Array Element) (move : Element -> Move) (position : Nat) : Move :=
  match elements[position]? with
  | some element => move element
  | none => .stop

/-- Match the rest of a sequence from a place on. The pass gives up early when no position
is left to visit and the symbol just read was not the last. -/
def runFrom
    (takes : α -> Element -> Bool)
    (elements : Array Element)
    (place : Nat)
    (current following : Frontier)
    (visited : List (Nat × Nat)) : List α -> Run
  | [] =>
      let swept := sweep (moveAt elements Element.moveAtEnd) current following []
      ⟨swept.current.reachedEnd, swept.visited.map (·, place) ++ visited⟩
  | symbol :: rest =>
      let swept :=
        sweep (moveAt elements (Element.move (takes symbol))) (current.moveTo place)
          (following.moveTo (place + 1)) []
      let visited := swept.visited.map (·, place) ++ visited
      if swept.following.pending.isEmpty && !rest.isEmpty then
        ⟨false, visited⟩
      else
        runFrom takes elements (place + 1) swept.following swept.current visited rest

/-- Match a sequence by elements. -/
def run
    (takes : α -> Element -> Bool)
    (elements : List Element)
    (symbols : List α) : Run :=
  let fresh := Frontier.empty elements.length
  runFrom takes elements.toArray 0 (fresh.add 0) fresh [] symbols

end Matching

/-- Whether the elements match the whole of a text. -/
def Element.matchAll (folding : Folding) (elements : List Element) (text : Text) : Bool :=
  (Matching.run Element.takes elements (folding.symbols text)).matched

end WildcardDiff
