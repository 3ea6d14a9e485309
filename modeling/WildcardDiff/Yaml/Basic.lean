import WildcardDiff.Text.Lines
import WildcardDiff.Yaml.Node
import WildcardDiff.Yaml.Plain

/-!
# YAML

A reader of plain YAML, which the program runs with and which examples are read by: the
value that a YAML text describes, without tags, anchors, block scalars and directives.
What is shown of settings and of runs is shown for every reader.

Carriage returns count as line feeds. A key is no collection, and of two entries with the
same key the last one counts. The key of merges puts the entries of other mappings in
front of those of its own mapping, so that its own count.

Of several faults among the values the one at the least depth counts, and of those at
the same depth the first.
-/

namespace WildcardDiff
namespace Yaml

/-- A fault, and the number of collections around it. -/
structure Flaw where
  depth : Nat
  fault : Fault

/-- Two results together. Of two flaws the one at the lesser depth counts, and the left
one of two at the same depth. -/
def both (left : Except Flaw α) (right : Except Flaw β) : Except Flaw (α × β) :=
  match left, right with
  | .ok leftResult, .ok rightResult => .ok (leftResult, rightResult)
  | .error flaw, .ok _ => .error flaw
  | .ok _, .error flaw => .error flaw
  | .error leftFlaw, .error rightFlaw =>
      .error (if rightFlaw.depth < leftFlaw.depth then rightFlaw else leftFlaw)

/-- The results of a list together. -/
def together (results : List (Except Flaw α)) : Except Flaw (List α) :=
  results.foldr (fun result rest => (both result rest).map fun (item, items) =>
    item :: items)
    (.ok [])

/-- The outcome of a plain scalar at a depth. -/
def plainValue (depth : Nat) (content : Text) : Except Flaw Value :=
  (Plain.value content).mapError (⟨depth, ·⟩)

/-- The key that a value gives at a depth, if it is no collection. -/
def keyOfValue (depth : Nat) (value : Value) : Except Flaw Key :=
  value.toKey?.elim (.error ⟨depth, .malformed⟩) .ok

/-- The key that a node gives at a depth. The mark of a default is a key like any other
text. -/
def Node.key (depth : Nat) : Node -> Except Flaw Key
  | .plain content =>
      if String.ofList content = Plain.defaultMark then .ok (.text Plain.defaultMark)
      else (plainValue depth content).bind (keyOfValue depth)
  | .quoted content => keyOfValue depth (.ofPoints content)
  | _ => .error ⟨depth, .malformed⟩

/-- Whether a key merges other mappings into its own. -/
def Node.isMerge : Node -> Bool
  | .plain content => String.ofList content = Plain.mergeMark
  | _ => false

/-- The outcome of an entry of a mapping. -/
abbrev EntryOutcome := Except Flaw (Key × Value)

/-- The entries of a mapping, those that are merged and its own. -/
structure Parts where
  merged : List EntryOutcome
  own : List EntryOutcome

/-- All entries of a mapping, the merged ones in front. -/
def Parts.all (parts : Parts) : List EntryOutcome :=
  parts.merged ++ parts.own

mutual

/-- The value of a node that lies at a depth. -/
def Node.value (depth : Nat) : Node -> Except Flaw Value
  | .plain content => plainValue depth content
  | .quoted content => .ok (.ofPoints content)
  | .sequence items => (together (itemValues (depth + 1) items)).map .list
  | .mapping entries =>
      match entryParts? (depth + 1) entries with
      | some parts => (together parts.all).map fun pairs =>
          .mapping (Entries.ofPairs pairs)
      | none => .error ⟨depth + 1, .malformed⟩

/-- The values of the items of a sequence. -/
def itemValues (depth : Nat) : List Node -> List (Except Flaw Value)
  | [] => []
  | item :: items => item.value depth :: itemValues depth items

/-- The entries of a mapping, unless it merges something that is no mapping. -/
def entryParts? (depth : Nat) : List (Node × Node) -> Option Parts
  | [] => some ⟨[], []⟩
  | (key, content) :: entries => do
      if key.isMerge then
        let merged ← mergedEntries? depth content
        let parts ← entryParts? depth entries
        return { parts with merged := merged ++ parts.merged }
      else
        let parts ← entryParts? depth entries
        let entry := both (key.key depth) (content.value depth)
        return { parts with own := entry :: parts.own }

/-- The entries that a node gives to a mapping that merges it. Of a sequence of mappings
the first ones come last, so that they count. -/
def mergedEntries? (depth : Nat) : Node -> Option (List EntryOutcome)
  | .plain _ => none
  | .quoted _ => none
  | .sequence items => mergedItems? depth items
  | .mapping entries => (entryParts? depth entries).map Parts.all

/-- The entries that the mappings of a sequence give to one that merges it. -/
def mergedItems? (depth : Nat) : List Node -> Option (List EntryOutcome)
  | [] => some []
  | item :: items =>
      match item with
      | .mapping entries => do
          let parts ← entryParts? depth entries
          let later ← mergedItems? depth items
          return later ++ parts.all
      | _ => none

end

/-- The ranges of the characters that a YAML text may hold. -/
def printable : List (Nat × Nat) :=
  [(9, 10), (13, 13), (32, 126), (133, 133), (160, 55295), (57344, 65533),
    (65536, 1114111)]

/-- The value that a text describes. An empty text describes a null. -/
def value (text : Text) : Except Fault Value := do
  if text.all (Text.inRanges printable) then
    match ← Node.ofTokens (tokens (Text.join ['\n'] (Lines.pieces text))) with
    | some node => (node.value 0).mapError Flaw.fault
    | none => return .null
  else
    throw .malformed

end Yaml
end WildcardDiff
