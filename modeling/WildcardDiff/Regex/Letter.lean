import WildcardDiff.Text.Case

/-!
# Letters of regular expressions

When a regular expression ignores case, two characters are the same letter if the first
characters of their lower cases are equal or lie in one class of small letters that
share a capital.
-/

namespace WildcardDiff
namespace Letter

/-- Classes of small letters that share a capital. -/
def classes : List (List Char) :=
  [['\u0069', '\u0131'], ['\u0073', '\u017f'], ['\u00b5', '\u03bc'],
   ['\u0345', '\u03b9', '\u1fbe'], ['\u0390', '\u1fd3'], ['\u03b0', '\u1fe3'],
   ['\u03b2', '\u03d0'], ['\u03b5', '\u03f5'], ['\u03b8', '\u03d1'], ['\u03ba', '\u03f0'],
   ['\u03c0', '\u03d6'], ['\u03c1', '\u03f1'], ['\u03c2', '\u03c3'], ['\u03c6', '\u03d5'],
   ['\u0432', '\u1c80'], ['\u0434', '\u1c81'], ['\u043e', '\u1c82'], ['\u0441', '\u1c83'],
   ['\u0442', '\u1c84', '\u1c85'], ['\u044a', '\u1c86'], ['\u0463', '\u1c87'],
   ['\u1c88', '\ua64b'], ['\u1e61', '\u1e9b'], ['\ufb05', '\ufb06']]

/-- The small letters that count as the same as a small letter, itself first. -/
def siblings (small : Char) : List Char :=
  match classes.find? fun letters => letters.contains small with
  | some letters => small :: letters.filter (· ≠ small)
  | none => [small]

/-- Whether two characters are the same letter. -/
def same (left right : Char) : Bool :=
  (siblings (Case.small left)).contains (Case.small right)

/-- The characters whose lower case begins with a given small letter. -/
def capitals (small : Char) : List Char :=
  let mapped := CaseTable.lowerRuns.filterMap fun run =>
    (run.source? small.toNat).map Char.ofNat
  (small :: '\u0130' :: mapped).filter fun char => Case.small char = small

/-- All characters that are the same letter as a character. -/
def variants (char : Char) : List Char :=
  (siblings (Case.small char)).flatMap capitals

end Letter
end WildcardDiff
