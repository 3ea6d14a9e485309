/-!
# Error codes

The numbers that classify failures.
-/

namespace WildcardDiff

/-- The class of a failure. -/
inductive ErrorCode
  | success
  | invalidInput
  | notFound
  | invalidPattern
  | internalError
  deriving DecidableEq

namespace ErrorCode

/-- The number of a class. -/
def number : ErrorCode -> Nat
  | .success => 0
  | .invalidInput => 1
  | .notFound => 2
  | .invalidPattern => 3
  | .internalError => 6

/-- The name of a class. -/
def name : ErrorCode -> String
  | .success => "SUCCESS"
  | .invalidInput => "INVALID_INPUT"
  | .notFound => "NOT_FOUND"
  | .invalidPattern => "INVALID_PATTERN"
  | .internalError => "INTERNAL_ERROR"

/-- All classes. -/
def all : List ErrorCode :=
  [.success, .invalidInput, .notFound, .invalidPattern, .internalError]

end ErrorCode
end WildcardDiff
