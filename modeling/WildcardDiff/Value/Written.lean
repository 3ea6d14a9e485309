import WildcardDiff.Value.Basic
import WildcardDiff.Value.MomentWritten
import WildcardDiff.Decimal.Numeral
import WildcardDiff.Decimal.Shortest
import WildcardDiff.Text.Quoted

/-!
# Values in messages

The two forms in which messages show a value. The quoted form puts texts between quotes,
lists between brackets and mappings between braces, and lists the parts of a moment. The
plain form differs only for a text, which stands as it is, and for a moment, which
stands as calendars and clocks write it. A value has these forms unless it holds a whole
number of too many digits.
-/

namespace WildcardDiff

/-- The name of a truth value. -/
def truthName (value : Bool) : Text :=
  (if value then "True" else "False").toList

/-- The quoted form of a key. -/
def Key.quoted : Key -> Text
  | .null => "None".toList
  | .bool value => truthName value
  | .int value => Digit.ofInt value
  | .float value => value.written
  | .notANumber => Binary64.notANumber.written
  | .text value => Quoted.encode value.toList
  | .surrogates value => Quoted.encodePoints value
  | .moment value => value.quoted

/-- Whether a key has a form. -/
def Key.isWritable : Key -> Bool
  | .int value => Numeral.isWritable value
  | _ => true

namespace Value

mutual

/-- The quoted form of a value. -/
def quoted : Value -> Text
  | .null => "None".toList
  | .bool value => truthName value
  | .int value => Digit.ofInt value
  | .float value => value.written
  | .text value => Quoted.encode value.toList
  | .surrogates value => Quoted.encodePoints value
  | .moment value => value.quoted
  | .list items => ['['] ++ Text.join [',', ' '] (quotedItems items) ++ [']']
  | .mapping entries =>
      ['\x7b'] ++ Text.join [',', ' '] (quotedEntries entries) ++ ['\x7d']

/-- The quoted forms of the items of a list. -/
def quotedItems : List Value -> List Text
  | [] => []
  | item :: items => quoted item :: quotedItems items

/-- The quoted forms of the entries of a mapping. -/
def quotedEntries : List (Key × Value) -> List Text
  | [] => []
  | (key, value) :: entries =>
      (key.quoted ++ [':', ' '] ++ quoted value) :: quotedEntries entries

end

mutual

/-- Whether a value has a form: its whole numbers have one. -/
def isWritable : Value -> Bool
  | .int value => Numeral.isWritable value
  | .list items => areWritable items
  | .mapping entries => entriesAreWritable entries
  | _ => true

/-- Whether all items of a list have a form. -/
def areWritable : List Value -> Bool
  | [] => true
  | item :: items => item.isWritable && areWritable items

/-- Whether all keys and values of a mapping have a form. -/
def entriesAreWritable : List (Key × Value) -> Bool
  | [] => true
  | (key, value) :: entries =>
      key.isWritable && value.isWritable && entriesAreWritable entries

end

/-- The plain form of a value. -/
def shown : Value -> Text
  | .text value => value.toList
  | .surrogates value => value.joined
  | .moment value => value.written
  | value => value.quoted

/-- The plain form of a value by its code points, which keeps the surrogates of a text. -/
def points : Value -> Points
  | .surrogates value => value.points
  | value => CodePoint.ofText value.shown

@[simp] theorem points_ofText (text : Text) :
    (ofText text).points = CodePoint.ofText text :=
  congrArg CodePoint.ofText String.toList_ofList

@[simp] theorem points_null : Value.null.points = CodePoint.ofText "None".toList := rfl

@[simp] theorem points_int (value : Int) :
    (Value.int value).points = CodePoint.ofText (Digit.ofInt value) := rfl

end Value
end WildcardDiff
