import WildcardDiff.Text.Case
import WildcardDiff.Value.Basic

/-!
# Log levels

The levels of log messages, in ascending order of importance, with their numbers and
names.
-/

namespace WildcardDiff
namespace Log

/-- The importance of a log message. -/
inductive Level
  | debug
  | info
  | warning
  | error
  | critical
  deriving DecidableEq

namespace Level

/-- The number of a level. -/
def number : Level -> Nat
  | .debug => 10
  | .info => 20
  | .warning => 30
  | .error => 40
  | .critical => 50

/-- The name of a level. -/
def name : Level -> String
  | .debug => "DEBUG"
  | .info => "INFO"
  | .warning => "WARNING"
  | .error => "ERROR"
  | .critical => "CRITICAL"

/-- All levels in ascending order. -/
def all : List Level :=
  [.debug, .info, .warning, .error, .critical]

/-- Whether a message of a level is written under a threshold. -/
def reaches (level threshold : Level) : Bool :=
  threshold.number ≤ level.number

end Level

/-- Why a value gives no level. -/
inductive LevelError
  | unknownName
  | unknownNumber
  deriving DecidableEq

/-- The level that a value gives: a name in any letter case, or a number. -/
def Level.ofValue : Value -> Except LevelError Level
  | .text name =>
      let upper := String.ofList (Case.upperText name.toList)
      match all.find? fun level => level.name = upper with
      | some level => .ok level
      | none => .error .unknownName
  | .surrogates _ => .error .unknownName
  | value =>
      let number? :=
        match value with
        | .bool truth => some (if truth then 1 else 0)
        | .int number => some number
        | .float number => number.toInt?
        | _ => none
      match all.find? fun level => number? = some (level.number : Int) with
      | some level => .ok level
      | none => .error .unknownNumber

end Log
end WildcardDiff
