import WildcardDiff.Text.Basic

/-!
# Blanks and decimal digits

The characters that count as blank space, and the decimal digits of all scripts, each with
its value (version 14.0 of the Unicode character database). Every script keeps its ten
digits in ascending order, so the table holds the code points of the zeros.
-/

namespace WildcardDiff
namespace Digit

/-- Code points of the zero digits. -/
def zeros : List Nat :=
  [48, 1632, 1776, 1984, 2406, 2534, 2662, 2790, 2918, 3046, 3174, 3302, 3430, 3558, 3664,
   3792, 3872, 4160, 4240, 6112, 6160, 6470, 6608, 6784, 6800, 6992, 7088, 7232,
   7248, 42528,
   43216, 43264, 43472, 43504, 43600, 44016, 65296, 66720, 68912, 69734, 69872,
   69942, 70096,
   70384, 70736, 70864, 71248, 71360, 71472, 71904, 72016, 72784, 73040, 73120,
   92768, 92864,
   93008, 120782, 120792, 120802, 120812, 120822, 123200, 123632, 125264, 130032]

/-- The value of a decimal digit of any script. -/
def value? (char : Char) : Option Nat :=
  zeros.findSome? fun start =>
    if start ≤ char.toNat ∧ char.toNat ≤ start + 9 then some (char.toNat - start)
    else none

/-- The value of an ASCII digit. -/
def ascii? (char : Char) : Option Nat :=
  if '0' ≤ char ∧ char ≤ '9' then some (char.toNat - 48) else none

/-- The value of a hexadecimal digit in letters of either case. -/
def hex? (char : Char) : Option Nat :=
  if 'a' ≤ char ∧ char ≤ 'f' then some (char.toNat - 87)
  else if 'A' ≤ char ∧ char ≤ 'F' then some (char.toNat - 55)
  else ascii? char

/-- The natural number that the values of digits give to a base. -/
def numberIn (base : Nat) (values : List Nat) : Nat :=
  values.foldl (fun total value => base * total + value) 0

/-- The digit of a value below ten. -/
def ofValue (value : Nat) : Char :=
  Char.ofNat (48 + value)

/-- The natural number that a list of ASCII digits writes. -/
def number (digits : Text) : Nat :=
  digits.foldl (fun total digit => 10 * total + (digit.toNat - 48)) 0

/-- The decimal digits of a natural number. -/
def ofNat (value : Nat) : Text :=
  Nat.toDigits 10 value

/-- The decimal digits of an integer, after a minus sign if it is negative. -/
def ofInt (value : Int) : Text :=
  if value < 0 then '-' :: ofNat value.natAbs else ofNat value.natAbs

@[simp] theorem ofInt_natCast (value : Nat) : ofInt value = ofNat value :=
  if_neg (Int.not_lt.mpr (Int.natCast_nonneg value))

end Digit

namespace Blank

/-- Ranges of the blank characters. -/
def ranges : List (Nat × Nat) :=
  [(9, 13), (28, 32), (133, 133), (160, 160), (5760, 5760), (8192, 8202), (8232, 8233),
   (8239, 8239), (8287, 8287), (12288, 12288)]

/-- Whether a character is blank space of any script. -/
def isBlank (char : Char) : Bool :=
  Text.inRanges ranges char

/-- Whether a character is ASCII blank space: a space, or a tab, line or page control. -/
def isAscii (char : Char) : Bool :=
  char = ' ' || (9 ≤ char.toNat && char.toNat ≤ 13)

/-- A text without the ASCII blanks at both ends. -/
def trim (text : Text) : Text :=
  ((text.dropWhile isAscii).reverse.dropWhile isAscii).reverse

end Blank
end WildcardDiff
