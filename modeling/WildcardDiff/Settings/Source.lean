/-!
# Sources of settings

Settings come from six sources. A source of higher rank takes precedence.
-/

namespace WildcardDiff
namespace Settings

/-- Where settings come from, in ascending order of precedence. -/
inductive Source
  | compiledDefaults
  | systemConfig
  | userConfig
  | environment
  | cliArgs
  | runtime
  deriving DecidableEq

namespace Source

/-- The rank of a source. -/
def rank : Source -> Nat
  | .compiledDefaults => 1
  | .systemConfig => 2
  | .userConfig => 3
  | .environment => 4
  | .cliArgs => 5
  | .runtime => 6

/-- The name of a source. -/
def name : Source -> String
  | .compiledDefaults => "COMPILED_DEFAULTS"
  | .systemConfig => "SYSTEM_CONFIG"
  | .userConfig => "USER_CONFIG"
  | .environment => "ENVIRONMENT"
  | .cliArgs => "CLI_ARGS"
  | .runtime => "RUNTIME"

/-- All sources in ascending order of precedence. -/
def ascending : List Source :=
  [.compiledDefaults, .systemConfig, .userConfig, .environment, .cliArgs, .runtime]

/-- All sources in descending order of precedence. -/
def descending : List Source :=
  [.runtime, .cliArgs, .environment, .userConfig, .systemConfig, .compiledDefaults]

@[simp] theorem mem_ascending (source : Source) : source ∈ ascending := by
  cases source <;> decide

@[simp] theorem reverse_ascending : ascending.reverse = descending := rfl

end Source
end Settings
end WildcardDiff
