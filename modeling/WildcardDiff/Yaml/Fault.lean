/-!
# Faults

Why a YAML text has no value. A text that breaks the rules of the format is malformed.
Other texts keep the rules but write something that does not exist: a number without
digits or with too many of them, a day that no calendar has, or a code that is none of a
code point. A reader of YAML may stop for reasons of its own, too.
-/

namespace WildcardDiff
namespace Yaml

/-- Why a text has no value. -/
inductive Fault
  /-- The text breaks the rules of the format. -/
  | malformed
  /-- The text writes a number, a moment or a code point that does not exist. -/
  | nonexistent
  /-- The text writes a number that is too large to be handled at all. -/
  | oversized
  /-- The reader stops for another reason, which has a name. -/
  | other (kind : String)
  deriving DecidableEq

/-- A result, where the lack of one means that the text is malformed. -/
def wellFormed (result : Option α) : Except Fault α :=
  result.elim (.error .malformed) .ok

end Yaml
end WildcardDiff
