import WildcardDiff.Decimal.Binary64
import WildcardDiff.Text.CodePoint
import WildcardDiff.Value.Moment

/-!
# Values

The values that settings, log contexts and loosely typed arguments hold: nulls, truth
values, numbers, texts, days and times, lists and mappings. A text that holds a
surrogate is a text too, but is kept by its code points. A mapping keeps its entries in
the order in which their keys first appeared.
-/

namespace WildcardDiff

/-- The key of an entry of a mapping. A floating-point number that is none names an
entry of its own wherever it stands, except for the one that files write, which is a
single key. -/
inductive Key
  | null
  | bool (value : Bool)
  | int (value : Int)
  | float (value : Binary64)
  | notANumber
  | text (value : String)
  | surrogates (value : SurrogateText)
  | moment (value : Moment)
  deriving DecidableEq

namespace Key

/-- The integer that a key equals, if it equals one. -/
def integer? : Key -> Option Int
  | .bool value => some (if value then 1 else 0)
  | .int value => some value
  | .float value => value.toInt?
  | _ => none

/-- Whether two keys name the same entry. Keys of different kinds do so only as equal
numbers. -/
def same (left right : Key) : Bool :=
  match left.integer?, right.integer? with
  | some leftValue, some rightValue => leftValue = rightValue
  | _, _ =>
      match left, right with
      | .float leftValue, .float rightValue => leftValue.same rightValue
      | .moment leftValue, .moment rightValue => leftValue.same rightValue
      | _, _ => left = right

@[simp] theorem same_text (left right : String) :
    same (.text left) (.text right) = decide (left = right) := by
  simp [same, integer?]

/-- The text of a key that is one. -/
def text? : Key -> Option String
  | .text value => some value
  | _ => none

/-- The name of a key that is a text, with pairs of surrogates joined. -/
def name? : Key -> Option String
  | .text value => some value
  | .surrogates value => some (String.ofList value.joined)
  | _ => none

end Key

/-- A value of any kind. -/
inductive Value
  | null
  | bool (value : Bool)
  | int (value : Int)
  | float (value : Binary64)
  | text (value : String)
  | surrogates (value : SurrogateText)
  | moment (value : Moment)
  | list (items : List Value)
  | mapping (entries : List (Key × Value))
  deriving Inhabited

namespace Value

/-- The empty mapping. -/
def empty : Value := .mapping []

/-- A text value from its characters. -/
def ofText (text : List Char) : Value :=
  .text (String.ofList text)

/-- A text value from its code points. -/
def ofPoints (points : List CodePoint) : Value :=
  if holds : points.any CodePoint.isSurrogate = true then .surrogates ⟨points, holds⟩
  else .ofText (points.filterMap CodePoint.char?)

/-- Whether a value counts as true where a choice is asked for: nulls, zeros and empty
values do not. -/
def isTruthy : Value -> Bool
  | .null => false
  | .bool value => value
  | .int value => value != 0
  | .float value => !value.isZero
  | .text value => value != ""
  | .surrogates _ => true
  | .moment _ => true
  | .list items => !items.isEmpty
  | .mapping entries => !entries.isEmpty

/-- The value that a key is. -/
def ofKey : Key -> Value
  | .null => .null
  | .bool value => .bool value
  | .int value => .int value
  | .float value => .float value
  | .notANumber => .float .notANumber
  | .text value => .text value
  | .surrogates value => .surrogates value
  | .moment value => .moment value

/-- The key that a value of a file is, if it is no collection. -/
def toKey? : Value -> Option Key
  | .null => some .null
  | .bool value => some (.bool value)
  | .int value => some (.int value)
  | .float .notANumber => some .notANumber
  | .float value => some (.float value)
  | .text value => some (.text value)
  | .surrogates value => some (.surrogates value)
  | .moment value => some (.moment value)
  | .list _ => none
  | .mapping _ => none

/-- Whether a value is a mapping. -/
def isMapping : Value -> Bool
  | .mapping _ => true
  | _ => false

/-- The text of a value that is one. -/
def text? : Value -> Option String
  | .text value => some value
  | _ => none

/-- Whether a value is a given text. -/
def isText : Value -> String -> Bool
  | .text value, expected => value = expected
  | _, _ => false

/-- The kinds of values by the names that messages use. -/
def kindName : Value -> String
  | .null => "NoneType"
  | .bool _ => "bool"
  | .int _ => "int"
  | .float _ => "float"
  | .text _ => "str"
  | .surrogates _ => "str"
  | .moment value => if value.time.isSome then "datetime" else "date"
  | .list _ => "list"
  | .mapping _ => "dict"

/-- The number of characters, items or entries of a value that has a length. -/
def length? : Value -> Option Nat
  | .text value => some value.length
  | .surrogates value => some value.length
  | .list items => some items.length
  | .mapping entries => some entries.length
  | _ => none

end Value

/-- The entries of a mapping. -/
abbrev Entries := List (Key × Value)

namespace Entries

/-- The value of the first entry with a key. -/
def get? (entries : Entries) (key : Key) : Option Value :=
  (entries.find? fun entry => entry.1.same key).map (·.2)

/-- Whether a mapping has an entry with a key. -/
def has (entries : Entries) (key : Key) : Bool :=
  entries.any fun entry => entry.1.same key

/-- Set the value of a key. An entry that has the key keeps its place; otherwise a new one
comes last. -/
def put (entries : Entries) (key : Key) (value : Value) : Entries :=
  match entries with
  | [] => [(key, value)]
  | entry :: rest =>
      if entry.1.same key then (entry.1, value) :: rest
      else entry :: put rest key value

/-- The mapping that results from setting the given entries one after the other. -/
def ofPairs (pairs : List (Key × Value)) : Entries :=
  pairs.foldl (fun entries pair => put entries pair.1 pair.2) []

end Entries

namespace Value

/-- The integer that a value equals, if it is a number and equals one. -/
def integer? : Value -> Option Int
  | .bool value => some (if value then 1 else 0)
  | .int value => some value
  | .float value => value.toInt?
  | _ => none

mutual

/-- Whether two values are equal. Values of different kinds are so only as equal numbers,
and the order of the entries of a mapping does not count. -/
def same : Value -> Value -> Bool
  | .null, .null => true
  | .text left, .text right => left = right
  | .surrogates left, .surrogates right => left = right
  | .moment left, .moment right => left.same right
  | .float left, .float right => left.same right
  | .list left, .list right => sameItems left right
  | .mapping left, .mapping right => left.length = right.length && sameEntries left right
  | left, right =>
      match left.integer?, right.integer? with
      | some leftValue, some rightValue => leftValue = rightValue
      | _, _ => false

/-- Whether the items of two lists are equal one by one. -/
def sameItems : List Value -> List Value -> Bool
  | [], [] => true
  | left :: lefts, right :: rights => left.same right && sameItems lefts rights
  | _, _ => false

/-- Whether every entry of a list of entries has an equal one in a mapping. -/
def sameEntries : Entries -> Entries -> Bool
  | [], _ => true
  | (key, value) :: rest, others =>
      (match Entries.get? others key with
        | some other => value.same other
        | none => false) && sameEntries rest others

end

end Value
end WildcardDiff
