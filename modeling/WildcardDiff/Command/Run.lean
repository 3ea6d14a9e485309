import WildcardDiff.Command.Check
import WildcardDiff.Files.Rotation
import WildcardDiff.Pattern.Dos

/-!
# Running the program

A run reads the arguments, checks them, loads the settings, opens the log and carries
out the task. It ends with a code: zero for a match, one for a mismatch, and two for a
failure that is reported. The log goes to the standard error stream, and to the log file
if one is set.
-/

namespace WildcardDiff
namespace Command

/-! ## The log -/

/-- Which messages are logged, and the file that they are also written to. -/
structure LogChoice where
  threshold : Log.Level
  file : Option Place

/-- The line that shows a record, made at a time. -/
def logLine (time : Text) (record : Log.Record) : Text :=
  Text.join " - ".toList
    [time, program.toList, record.level.name.toList, record.message ++ ['\n']]

/-- The lines that show records, made while a clock goes on. -/
def logLines (clock : Nat -> Text) (records : List Log.Record) : List Text :=
  records.zipIdx.map fun (record, index) => logLine (clock index) record

/-- The name of a file that a value gives. -/
def fileName (value : Value) : Except Failure Text :=
  match value with
  | .text name => .ok name.toList
  | .surrogates name => name.fileName?.elim (.error .nameWithoutBytes) .ok
  | _ => .error .notAName

/-- The log that the settings choose. -/
def LogChoice.ofSettings (layers : Settings.Layers) (files : Files) :
    Except Failure LogChoice := do
  let level := layers.choose .logLevel (.text "WARNING")
  let file := layers.choose .logFile .null
  let threshold ← (Log.Level.ofValue level).mapError fun _ => .unknownLevel level
  if file.isTruthy then
    match files.target (← fileName file) with
    | .ok place => return ⟨threshold, some place⟩
    | .error .impossible => throw .impossibleName
    | .error _ => throw (.logNotOpened file.shown)
  else
    return ⟨threshold, none⟩

namespace LogChoice

/-- The files with the lines of the log written into its file. -/
def write (choice : LogChoice) (files : Files) (lines : List Text) : Files :=
  match choice.file with
  | some place => files.addLines place lines
  | none => files

end LogChoice

/-! ## Tasks -/

/-- The code that a task ends with, and its output. -/
structure Result where
  code : Nat
  output : Points := []

/-- The code of a match. -/
def matchCode : Nat := 0

/-- The code of a mismatch. -/
def mismatchCode : Nat := 1

/-- The code of a failure that is reported. -/
def failureCode : Nat := 2

/-- What the tasks of a run have in common. -/
structure Context where
  surroundings : Surroundings
  layers : Settings.Layers
  choice : LogChoice

/-- Computations of tasks, which log and may fail. -/
abbrev Session (α : Type) := ExceptT Failure (StateM Log.Journal) α

namespace Context

/-- Log a message. -/
def log
    (context : Context)
    (level : Log.Level)
    (message : String)
    (named : Log.Context) : Session Unit :=
  modify fun journal => journal.log context.choice.threshold level message.toList named

/-- The pattern of an operand, under the settings. -/
def pattern (context : Context) (operand : Value) : Session Pattern :=
  ExceptT.mk fun journal =>
    ((Pattern.ofValues operand (context.layers.choose .escapeCharacter .null)
      (.int context.layers.patternOptions.bits)).mapError .badPattern, journal)

/-- The files at the moment, with what was logged so far. -/
def filesAfter (context : Context) (journal : Log.Journal) : Files :=
  let lines := logLines context.surroundings.clock journal.records
  context.choice.write context.surroundings.files lines

/-- The text of an input file, or of standard input. The log may have been written to
the file by then, or may have moved it. -/
def readText (context : Context) (operand : Value) : Session Text :=
  ExceptT.mk fun journal =>
    match operand with
    | .text name =>
        if name.toList = inputName then
          let streams := context.surroundings.streams
          ((streams.decode streams.input).elim (.error .inputNotDecoded) .ok, journal)
        else
          match (context.filesAfter journal).find name.toList with
          | .ok (_, file) =>
              ((file.text?.elim (.error (.notDecoded name.toList)) .ok), journal)
          | .error obstacle => (.error (.notRead name.toList obstacle), journal)
    | _ => (.error .notAName, journal)

/-- End with a code and an output, if the standard output can take it. -/
def print (context : Context) (code : Nat) (output : Points) : Session Result :=
  if context.surroundings.streams.takes output then return { code, output }
  else throw (.notPrinted output)

/-- Match a text by a pattern. -/
def matchText (context : Context) (pattern text : Value) : Session Result := do
  let built ← context.pattern pattern
  let matched := built.matchesValue text
  context.log .debug "Matched text" [("pattern", pattern), ("matched", .bool matched)]
  return { code := if matched then matchCode else mismatchCode }

/-- The layout of reports that the settings choose. -/
def layout (context : Context) : Report.Layout :=
  if (context.layers.choose .enhanced (.bool true)).isTruthy then .detailed else .plain

/-- Compare two texts, and report on a mismatch. -/
def compareTexts
    (context : Context)
    (expected actual header : Value) : Session Result := do
  let expectedText ← context.readText expected
  let actualText ← context.readText actual
  let analyzer := context.layers.analyzer context.choice.threshold
  let diff ← ExceptT.adapt Failure.badPattern
    (analyzer.analyze (some expectedText) (some actualText))
  if diff.overallMatch then
    context.log .info "All lines matched" [("lines", .int diff.length)]
    return { code := matchCode }
  else
    match Report.render context.surroundings.libraries.engine context.layout header
      diff with
    | .ok report => context.print mismatchCode report
    | .error (.template message) => throw (.badTemplate message)
    | .error (.filter _) => throw .notDisplayable

/-- The line that shows a pattern as a regular expression or as a DOS wildcard. -/
def translation (pattern : Pattern) (target : Value) (capture : Bool) : Points :=
  let translated :=
    if target.isText "dos" then pattern.dosWildcard else pattern.regex capture
  CodePoint.ofText (translated ++ ['\n'])

/-- Translate a pattern. -/
def translate (context : Context) (pattern target : Value) (capture : Bool) :
    Session Result := do
  let built ← context.pattern pattern
  context.print matchCode (translation built target capture)

/-- Carry out a task. -/
def perform (context : Context) (task : Task) : Session Result := do
  context.log .debug "Logging configured"
    [("level", context.layers.choose .logLevel (.text "WARNING")),
      ("file", context.layers.choose .logFile .null)]
  match task with
  | .matching pattern text => context.matchText pattern text
  | .comparing expected actual header => context.compareTexts expected actual header
  | .translating pattern target capture => context.translate pattern target capture

end Context

/-! ## Runs -/

/-- How a run ends. -/
inductive Ending
  /-- With a code, after the arguments were read. -/
  | code (code : Nat)
  /-- With a code, while the arguments were read. -/
  | halted (code : Nat)
  /-- By a failure that is not reported. -/
  | failed (failure : Failure)

/-- What a run leaves behind: its end, its two streams, and the files. -/
structure Outcome where
  ending : Ending
  output : Points
  errors : Text
  files : Files

/-- The line that names the version. -/
def versionLine : Text :=
  program.toList ++ [' '] ++ version.toList ++ ['\n']

/-- The line that names the general form of command lines. -/
def helpLine : Text :=
  "usage: ".toList ++ program.toList ++ " [OPTION]... COMMAND [ARGUMENT]...\n".toList

namespace Outcome

/-- The outcome of a run that ends while its arguments are read. -/
def ofHalt (files : Files) : Halt -> Outcome
  | .stopped _ .help => ⟨.halted matchCode, CodePoint.ofText helpLine, [], files⟩
  | .stopped _ .version => ⟨.halted matchCode, CodePoint.ofText versionLine, [], files⟩
  | .refused name error =>
      ⟨.halted failureCode, [],
        name.toList ++ ": error: ".toList ++ error.message ++ ['\n'], files⟩

/-- The outcome of a run with a result, from the log that it wrote. -/
def ofResult (result : Except Failure Result) (log : Text) (files : Files) : Outcome :=
  match result with
  | .ok result => ⟨.code result.code, result.output, log, files⟩
  | .error failure =>
      match failure.message? with
      | some message =>
          ⟨.code failureCode, [], log ++ "Error: ".toList ++ message ++ ['\n'], files⟩
      | none => ⟨.failed failure, [], log, files⟩

end Outcome

namespace Surroundings

/-- What the tasks of an invocation find. -/
def context (surroundings : Surroundings) (invocation : Invocation) :
    Except Failure Context := do
  let layers ← surroundings.settings invocation
  let choice ← LogChoice.ofSettings layers surroundings.files
  return ⟨surroundings, layers, choice⟩

/-- The outcome of an invocation. -/
def carryOut (surroundings : Surroundings) (invocation : Invocation) : Outcome :=
  match surroundings.context invocation with
  | .error failure => .ofResult (.error failure) [] surroundings.files
  | .ok context =>
      let (result, journal) := (context.perform invocation.task).run.run .empty
      let log := logLines surroundings.clock journal.records
      .ofResult result log.flatten (context.filesAfter journal)

/-- The outcome of the program for a list of arguments. -/
def run (surroundings : Surroundings) (arguments : List Text) : Outcome :=
  match surroundings.read arguments with
  | .error halt => .ofHalt surroundings.files halt
  | .ok invocation => surroundings.carryOut invocation

/-- The name of the log file that an invocation leads to, if it leads to one. -/
def logFile? (surroundings : Surroundings) (arguments : List Text) : Option Text := do
  let invocation ← (surroundings.read arguments).toOption
  let layers ← (surroundings.settings invocation).toOption
  (fileName (layers.choose .logFile .null)).toOption

end Surroundings

/-- The names of the files that a list of arguments leads to. -/
def fileNames (dashes : Dashes) (arguments : List Text) : List Text :=
  match Invocation.read dashes arguments with
  | .error _ => []
  | .ok invocation =>
      let operands : List Value :=
        match invocation.task with
        | .comparing expected actual _ => [expected, actual]
        | _ => []
      systemFile :: (invocation.config.toList ++ operands).filterMap fun value =>
        match value with
        | .text name => some name.toList
        | _ => none

end Command
end WildcardDiff
