import WildcardDiff.Text.Basic

/-!
# Code points

A code point is a character or a surrogate. Surrogates stand in texts only where an
escape sequence names them by their codes. Even two of them that together mean a
character are two code points there, and are joined only when the text is written out.
-/

namespace WildcardDiff

/-- A code point: a character, or the surrogate with a number. -/
inductive CodePoint
  | character (char : Char)
  | surrogate (index : Fin 2048)
  deriving DecidableEq

namespace CodePoint

/-- The code of the first surrogate. -/
def firstSurrogate : Nat := 0xd800

/-- The number of surrogates that come first in a pair, and of those that come second. -/
def pairWidth : Nat := 1024

/-- The code of the first character that a pair of surrogates means. -/
def firstPaired : Nat := 0x10000

/-- The code point of a code, if there is one. -/
def ofNat? (code : Nat) : Option CodePoint :=
  if code.isValidChar then some (.character (Char.ofNat code))
  else if isSurrogate : code - firstSurrogate < 2048 then
    some (.surrogate ⟨code - firstSurrogate, isSurrogate⟩)
  else none

/-- The code of a code point. -/
def toNat : CodePoint -> Nat
  | .character char => char.toNat
  | .surrogate index => firstSurrogate + index.val

@[simp] theorem toNat_character (char : Char) :
    (CodePoint.character char).toNat = char.toNat := rfl

@[simp] theorem toNat_surrogate (index : Fin 2048) :
    (CodePoint.surrogate index).toNat = firstSurrogate + index.val := rfl

/-- The character that a code point is. -/
def char? : CodePoint -> Option Char
  | .character char => some char
  | .surrogate _ => none

/-- Whether a code point is a surrogate. -/
def isSurrogate (point : CodePoint) : Bool :=
  point.char?.isNone

/-- The character that two surrogates mean together, if they are a pair. -/
def paired? (first second : Fin 2048) : Option Char :=
  if first.val < pairWidth ∧ pairWidth ≤ second.val then
    some (Char.ofNat (firstPaired + pairWidth * first.val + (second.val - pairWidth)))
  else
    none

/-- The code points of a text. -/
def ofText (text : Text) : List CodePoint :=
  text.map .character

@[simp] theorem ofText_nil : ofText [] = [] := rfl

@[simp] theorem ofText_cons (char : Char) (text : Text) :
    ofText (char :: text) = .character char :: ofText text := rfl

@[simp] theorem ofText_append (first second : Text) :
    ofText (first ++ second) = ofText first ++ ofText second :=
  List.map_append

@[simp] theorem character_mem_ofText {char : Char} {text : Text} :
    .character char ∈ ofText text ↔ char ∈ text := by
  simp [ofText]

/-- What stands for a surrogate on its own where only characters can. -/
def replacement : Char := '\ufffd'

/-- The characters of code points, with pairs of surrogates joined. -/
def joined : List CodePoint -> Text
  | [] => []
  | .character char :: points => char :: joined points
  | [.surrogate _] => [replacement]
  | .surrogate first :: .surrogate second :: points =>
      match paired? first second with
      | some char => char :: joined points
      | none => replacement :: joined (.surrogate second :: points)
  | .surrogate _ :: .character char :: points => replacement :: char :: joined points

/-- The number of the surrogate that stands for the byte zero in the name of a file. -/
def byteOffset : Nat := 0x400

/-- The bytes of a code point in the name of a file. Some surrogates stand for bytes that
are no text, and the others for nothing. -/
def nameBytes? : CodePoint -> Option (List UInt8)
  | .character char => some (String.utf8EncodeChar char)
  | .surrogate index =>
      let byte := index.val - byteOffset
      if 128 ≤ byte ∧ byte < 256 then some [UInt8.ofNat byte] else none

end CodePoint

/-- Texts that may hold surrogates, such as those that are printed. -/
abbrev Points := List CodePoint

/-- A text that holds a surrogate. -/
structure SurrogateText where
  points : Points
  /-- There is a surrogate among the code points. -/
  holds : points.any CodePoint.isSurrogate = true
  deriving DecidableEq

namespace SurrogateText

/-- The number of code points. -/
def length (text : SurrogateText) : Nat :=
  text.points.length

/-- The characters, with pairs of surrogates joined. -/
def joined (text : SurrogateText) : Text :=
  CodePoint.joined text.points

/-- The name of the file that the text names, unless one of its surrogates stands for no
byte. Bytes that are no text have their replacement in the name. -/
def fileName? (text : SurrogateText) : Option Text :=
  (text.points.mapM CodePoint.nameBytes?).map fun bytes =>
    ((String.fromUTF8? (ByteArray.mk bytes.flatten.toArray)).map String.toList).getD
      text.joined

end SurrogateText
end WildcardDiff
