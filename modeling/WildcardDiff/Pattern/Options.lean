import WildcardDiff.Text.Case
import WildcardDiff.Value.Basic

/-!
# Match options

Options are a set of bits. Two of them have a meaning when matching: whether letter case
is ignored, and whether it is then ignored by lower case alone instead of full case
folding. Bits without a meaning are kept.
-/

namespace WildcardDiff

/-- The options of a pattern. -/
structure Options where
  bits : Nat
  deriving DecidableEq

namespace Options

/-- No option. -/
def none : Options := ⟨0⟩

/-- The named options and their bits. -/
def named : List (String × Nat) :=
  [("COMPILED", 1), ("IGNORE_CASE", 2), ("CULTURE_INVARIANT", 4)]

/-- Whether letter case is ignored. -/
def ignoreCase (options : Options) : Bool :=
  options.bits.testBit 1

/-- Whether letter case, if ignored, is ignored by lower case alone. -/
def cultureInvariant (options : Options) : Bool :=
  options.bits.testBit 2

/-- The options with the two choices and no other bit. -/
def ofChoices (ignoreCase cultureInvariant : Bool) : Options :=
  ⟨(if ignoreCase then 2 else 0) + (if cultureInvariant then 4 else 0)⟩

/-- The options that an integer gives. A negative one is counted down from a power of two:
from the first above the named options, or from the first above its magnitude if it lies
lower. -/
def ofInt : Int -> Options
  | .ofNat bits => ⟨bits⟩
  | .negSucc below =>
      let magnitude := below + 1
      ⟨(if magnitude ≤ 8 then 8 else Nat.pow 2 (magnitude.log2 + 1)) - magnitude⟩

/-- The options that a value gives: an integer or truth value, or a fractional number that
equals no option or a single named one. -/
def ofValue? : Value -> Option Options
  | .bool value => some ⟨if value then 1 else 0⟩
  | .int value => some (ofInt value)
  | .float value =>
      match value.toInt? with
      | some (.ofNat bits) => if bits ∈ [0, 1, 2, 4] then some ⟨bits⟩ else Option.none
      | _ => Option.none
  | _ => Option.none

end Options

/-- How letter case is removed before characters are compared. -/
inductive Folding
  | exact
  | lower
  | full
  deriving DecidableEq

/-- A text after the removal of letter case. -/
def Folding.apply : Folding -> Text -> Text
  | .exact, text => text
  | .lower, text => Case.lowerText text
  | .full, text => Case.foldText text

/-- The folding for a choice of case options. -/
def Folding.ofChoices (ignoreCase cultureInvariant : Bool) : Folding :=
  match ignoreCase, cultureInvariant with
  | false, _ => .exact
  | true, true => .lower
  | true, false => .full

/-- The folding that the options ask for. -/
def Options.folding (options : Options) : Folding :=
  .ofChoices options.ignoreCase options.cultureInvariant

end WildcardDiff
