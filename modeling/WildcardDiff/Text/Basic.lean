/-!
# Texts

A text is the list of its characters, so that lengths and positions count characters. The
order of texts is by code point, and classes of characters are given by ranges of code
points.
-/

namespace WildcardDiff

/-- A text is the list of its characters. -/
abbrev Text := List Char

namespace Text

/-- Whether a text comes before another, or equals it, in the order of code points. -/
def atMost : Text -> Text -> Bool
  | [], _ => true
  | _ :: _, [] => false
  | left :: lefts, right :: rights =>
      if left = right then atMost lefts rights else left < right

@[simp] theorem atMost_nil (text : Text) : atMost [] text = true := rfl

@[simp] theorem atMost_singleton (left right : Char) :
    atMost [left] [right] = decide (left ≤ right) := by
  by_cases same : left = right
  · simp [atMost, same]
  · have codes : left.val.toNat ≠ right.val.toNat := fun equal =>
      same (Char.ext (UInt32.toNat_inj.mp equal))
    simp only [atMost, same, if_false, decide_eq_decide, Char.lt_def, Char.le_def,
      UInt32.lt_iff_toNat_lt, UInt32.le_iff_toNat_le]
    omega

/-- Whether a character lies in one of the ranges of code points. -/
def inRanges (ranges : List (Nat × Nat)) (char : Char) : Bool :=
  ranges.any fun range => range.1 ≤ char.toNat && char.toNat ≤ range.2

/-- The pieces of a text between the occurrences of a character. -/
def splitAtChar (mark : Char) : Text -> List Text
  | [] => [[]]
  | char :: rest =>
      if char = mark then
        [] :: splitAtChar mark rest
      else
        match splitAtChar mark rest with
        | piece :: pieces => (char :: piece) :: pieces
        | [] => [[char]]

/-- The pieces of a text between the occurrences of a character that stands twice. -/
def splitAtPair (mark : Char) : Text -> List Text
  | [] => [[]]
  | [char] => [[char]]
  | first :: second :: rest =>
      if first = mark && second = mark then
        [] :: splitAtPair mark rest
      else
        match splitAtPair mark (second :: rest) with
        | piece :: pieces => (first :: piece) :: pieces
        | [] => [[first]]

/-- The texts in order, with a separator between neighbours. -/
def join (separator : Text) : List Text -> Text
  | [] => []
  | [piece] => piece
  | piece :: next :: pieces => piece ++ separator ++ join separator (next :: pieces)

/-- The part of a text after a given beginning, if the text begins so. -/
def after? : Text -> Text -> Option Text
  | [], text => some text
  | _ :: _, [] => none
  | expected :: beginning, char :: text =>
      if expected = char then after? beginning text else none

end Text
end WildcardDiff
