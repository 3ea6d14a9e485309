import WildcardDiff.Command.Form
import WildcardDiff.Diff.Report
import WildcardDiff.Settings.Setting

/-!
# Invocations

The options and commands of the program, and what a list of arguments asks for: one of
three tasks, and general options that overrule other settings.
-/

namespace WildcardDiff
namespace Command

/-- The name of the program. -/
def program : String := "globdiff"

/-- The version of the program. -/
def version : String := "1.0.0"

/-! ## The options -/

/-- The option that asks for help. -/
def helpOption : OptionForm where
  names := ["-h", "--help"]
  stop := some .help

/-- The option that asks for the version. -/
def versionOption : OptionForm where
  names := ["-v", "--version"]
  stop := some .version

/-- The option that chooses a file of settings. -/
def configOption : OptionForm where
  names := ["-c", "--config"]
  takesValue := true

/-- The option that sets the escape character. -/
def escapeOption : OptionForm where
  names := ["--escape"]
  takesValue := true
  excludes := ["--no-escape"]

/-- The option that removes the escape character. -/
def noEscapeOption : OptionForm where
  names := ["--no-escape"]
  excludes := ["--escape"]

/-- The option that ignores letter case. -/
def ignoreCaseOption : OptionForm where
  names := ["-i", "--ignore-case"]

/-- The option that ignores letter case by lower case alone. -/
def cultureInvariantOption : OptionForm where
  names := ["--culture-invariant"]

/-- The option that logs everything. -/
def debugOption : OptionForm where
  names := ["--debug"]

/-- The option that chooses a file for the log. -/
def logFileOption : OptionForm where
  names := ["--log-file"]
  takesValue := true

/-- The option that chooses the plain layout of reports. -/
def plainOption : OptionForm where
  names := ["--plain"]

/-- The option that sets the header of reports. -/
def headerOption : OptionForm where
  names := ["--header"]
  takesValue := true

/-- The option that chooses the notation a pattern is translated to. -/
def targetOption : OptionForm where
  names := ["--to"]
  takesValue := true
  choices := ["regex", "dos"]

/-- The option that asks for a group for each wildcard. -/
def captureOption : OptionForm where
  names := ["--capture"]

/-- The form of whole command lines. -/
def generalForm (dashes : Dashes) : Form where
  program := program
  options :=
    [helpOption, versionOption, configOption, escapeOption, noEscapeOption,
      ignoreCaseOption, cultureInvariantOption, debugOption, logFileOption]
  hasCommand := true
  dashes

/-! ## The commands -/

/-- The commands. -/
inductive Verb
  | matching
  | comparing
  | translating
  deriving DecidableEq

namespace Verb

/-- The name of a command. -/
def name : Verb -> String
  | .matching => "match"
  | .comparing => "diff"
  | .translating => "translate"

/-- All commands. -/
def all : List Verb :=
  [.matching, .comparing, .translating]

/-- The form of the arguments after a command. -/
def form (dashes : Dashes) (verb : Verb) : Form where
  program := program ++ " " ++ verb.name
  options :=
    helpOption ::
      match verb with
      | .matching => []
      | .comparing => [plainOption, headerOption]
      | .translating => [targetOption, captureOption]
  operands :=
    match verb with
    | .matching => ["PATTERN", "TEXT"]
    | .comparing => ["EXPECTED_FILE", "ACTUAL_FILE"]
    | .translating => ["PATTERN"]
  dashes

end Verb

/-- What is to be done. Operands are kept as they were given. -/
inductive Task
  | matching (pattern text : Value)
  | comparing (expected actual header : Value)
  | translating
      (pattern target : Value)
      (capture : Bool)

/-- A task with its general options. -/
structure Invocation where
  config : Option Value
  escape : Option Value
  noEscape : Bool
  ignoreCase : Bool
  cultureInvariant : Bool
  debug : Bool
  logFile : Option Value
  /-- Whether reports have the plain layout. -/
  plain : Bool
  task : Task

namespace Invocation

/-- The task of a command. -/
def taskOf (verb : Verb) (reading : Reading) : Task :=
  let operand (index : Nat) : Value := reading.operands[index]?.getD .null
  match verb with
  | .matching => .matching (operand 0) (operand 1)
  | .comparing =>
      .comparing (operand 0) (operand 1)
        ((reading.value? headerOption).getD (.text Report.defaultHeader))
  | .translating =>
      .translating (operand 0) ((reading.value? targetOption).getD (.text "regex"))
        (reading.has captureOption)

/-- The command of a reading, and what was read of the arguments after it. -/
def readCommand (dashes : Dashes) (general : Reading) : Except Halt (Verb × Reading) :=
  match general.command with
  | [] => .error ((generalForm dashes).refuse (.missingOperands ["COMMAND"]))
  | name :: arguments =>
      match Verb.all.find? fun verb => verb.name.toList = name with
      | some verb => ((verb.form dashes).read arguments).map fun reading =>
          (verb, reading)
      | none =>
          let choices := Verb.all.map Verb.name
          .error ((generalForm dashes).refuse (.invalidChoice "COMMAND" name choices))

/-- What a list of arguments asks for. -/
def read (dashes : Dashes) (arguments : List Text) : Except Halt Invocation := do
  let general ← (generalForm dashes).read arguments
  let (verb, particular) ← readCommand dashes general
  match general.leftOver ++ particular.leftOver with
  | [] =>
      return {
        config := general.value? configOption
        escape := general.value? escapeOption
        noEscape := general.has noEscapeOption
        ignoreCase := general.has ignoreCaseOption
        cultureInvariant := general.has cultureInvariantOption
        debug := general.has debugOption
        logFile := general.value? logFileOption
        plain := particular.has plainOption
        task := taskOf verb particular }
  | leftOver => throw ((generalForm dashes).refuse (.unrecognized leftOver))

/-- The settings that the options of an invocation make. -/
def tree (invocation : Invocation) : Value :=
  let chosen (condition : Bool) (name : String) (value : Value) : List (String × Value) :=
    if condition then [(name, value)] else []
  let ofSection (name : String) (entries : List (String × Value)) :
      List (String × Value) :=
    chosen (!entries.isEmpty) name (Settings.group entries)
  let escape : List (String × Value) :=
    match invocation.noEscape, invocation.escape with
    | true, _ => [("escape_character", .null)]
    | false, some escape => [("escape_character", escape)]
    | false, none => []
  let logFile := invocation.logFile.getD .null
  Settings.group [(Setting.root, Settings.group (
    ofSection "pattern" (escape ++
      chosen invocation.ignoreCase "case_insensitive" (.bool true) ++
      chosen invocation.cultureInvariant "culture_invariant" (.bool true)) ++
    ofSection "logging" (chosen invocation.debug "level" (.text "DEBUG") ++
      chosen logFile.isTruthy "file" logFile) ++
    chosen invocation.plain "diff" (Settings.group [("enhanced", .bool false)])))]

end Invocation
end Command
end WildcardDiff
