import WildcardDiff.Text.Basic
import WildcardDiff.Text.CaseTable
import WildcardDiff.Text.CaseContextTable

/-!
# Letter case

Lower case, upper case and case folding of characters and of texts. Each mapping sends one
character to a short text, since some characters have several characters as their other
case. Only one rule looks at the neighbours of a character: in the lower case of a text, a
capital sigma that ends a word becomes a final sigma.
-/

namespace WildcardDiff
namespace Case

open CaseTable

/-- The image of a code point under the first run that holds it. -/
def runImage? (runs : List Run) (code : Nat) : Option Nat :=
  runs.findSome? fun run => run.image? code

/-- The image of a character under a table of runs; other characters stay as they are. -/
def mapped (runs : List Run) (char : Char) : Char :=
  match runImage? runs char.toNat with
  | some code => Char.ofNat code
  | none => char

/-- The lower case of a character on its own. -/
def lower (char : Char) : Text :=
  if char = '\u0130' then ['i', '\u0307'] else [mapped lowerRuns char]

/-- The upper case of a character. -/
def upper (char : Char) : Text :=
  match upperSequences.lookup char.toNat with
  | some codes => codes.map Char.ofNat
  | none => [mapped upperRuns char]

/-- The case folding of a character: its lower case, unless the folding tables list it. -/
def fold (char : Char) : Text :=
  match foldSequences.lookup char.toNat with
  | some codes => codes.map Char.ofNat
  | none =>
      match runImage? foldRuns char.toNat with
      | some code => [Char.ofNat code]
      | none => lower char

/-- The first character of the lower case of a character. -/
def small (char : Char) : Char :=
  (lower char).headD char

/-- The first character of the upper case of a character. -/
def capital (char : Char) : Char :=
  (upper char).headD char

/-- Whether a character is skipped when the case of its neighbours is asked. -/
def isIgnorable (char : Char) : Bool :=
  Text.inRanges CaseContextTable.ignorable char

/-- Whether a character has case. -/
def isCased (char : Char) : Bool :=
  Text.inRanges CaseContextTable.cased char

/-- Whether the nearest character that is not skipped has case. -/
def facesCased (neighbours : Text) : Bool :=
  (neighbours.dropWhile isIgnorable).head?.any isCased

/-- The lower case of a text, given the characters before it, nearest first. A capital
sigma that follows a letter and precedes none becomes a final sigma. -/
def lowerAfter (before : Text) : Text -> Text
  | [] => []
  | char :: rest =>
      let image :=
        if char = 'Σ' && facesCased before && !facesCased rest then ['ς'] else lower char
      image ++ lowerAfter (char :: before) rest

/-- The lower case of a text. -/
def lowerText (text : Text) : Text :=
  lowerAfter [] text

/-- The upper case of a text. -/
def upperText (text : Text) : Text :=
  text.flatMap upper

/-- The case folding of a text. -/
def foldText (text : Text) : Text :=
  text.flatMap fold

@[simp] theorem lowerText_nil : lowerText [] = [] := rfl

@[simp] theorem lowerText_singleton (char : Char) : lowerText [char] = lower char := by
  simp [lowerText, lowerAfter, facesCased]

@[simp] theorem upperText_singleton (char : Char) : upperText [char] = upper char := by
  simp [upperText]

@[simp] theorem foldText_singleton (char : Char) : foldText [char] = fold char := by
  simp [foldText]

end Case
end WildcardDiff
