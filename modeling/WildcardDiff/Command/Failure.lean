import WildcardDiff.Diff.Report
import WildcardDiff.Pattern.Basic
import WildcardDiff.Settings.Loading
import WildcardDiff.Settings.Schema

/-!
# Failures of tasks

Why a task cannot be carried out. Most failures are reported by a message; the others,
which come from unforeseen values and from the standard streams, have none and end the
program.
-/

namespace WildcardDiff
namespace Command

/-- Why a task cannot be carried out. -/
inductive Failure
  | escapeLength (escape : Value)
  | configMissing (file : Text)
  | configNotFile (file : Text)
  | fileMissing (file : Text)
  /-- Both files are to be read from standard input. -/
  | sameInput
  | captureWithoutRegex
  | notLoaded (error : Settings.LoadError)
  | invalid (error : Settings.Invalid)
  | unknownLevel (level : Value)
  | logNotOpened (file : Text)
  | notDecoded (file : Text)
  | notRead (file : Text) (obstacle : Obstacle)
  | badPattern (error : PatternError)
  | badTemplate (message : Text)
  /-- A value stands where the name of a file is needed. -/
  | notAName
  /-- The name of the log file has a zero character. -/
  | impossibleName
  /-- The name of the log file has a surrogate that stands for no byte. -/
  | nameWithoutBytes
  | nameTooLong
  /-- Settings are nested too deep to be copied. -/
  | tooDeep
  /-- A capture of an unforeseen kind has to be displayed. -/
  | notDisplayable
  /-- The bytes of standard input are no text. -/
  | inputNotDecoded
  /-- Standard output cannot take a text. -/
  | notPrinted (output : Points)

/-- The message on a failure to build a pattern; values of a wrong kind have none. -/
def patternMessage? : PatternError -> Option Text
  | .notText _ => none
  | .unknownOptions => none
  | error => some error.message

/-- What the system says about an obstacle, with its number for it. -/
def obstacleText : Obstacle -> String
  | .missing => "[Errno 2] No such file or directory"
  | .notDirectory => "[Errno 20] Not a directory"
  | .isDirectory => "[Errno 21] Is a directory"
  | .tooLong => "[Errno 36] File name too long"
  | .impossible => "embedded null byte"

/-- The message on a failure, if it is reported. -/
def Failure.message? : Failure -> Option Text
  | .escapeLength escape =>
      some ("Escape character must be a single character: ".toList ++ escape.quoted)
  | .configMissing file => some ("Configuration file does not exist: ".toList ++ file)
  | .configNotFile file => some ("Configuration path is not a file: ".toList ++ file)
  | .fileMissing file => some ("File does not exist: ".toList ++ file)
  | .sameInput => some "Only one of EXPECTED_FILE and ACTUAL_FILE can be stdin".toList
  | .captureWithoutRegex => some "--capture is only supported with --to regex".toList
  | .notLoaded error => error.message?
  | .invalid error => error.message?
  | .unknownLevel level =>
      if level.isWritable then some ("Unknown log level: ".toList ++ level.shown)
      else none
  | .logNotOpened file => some ("Cannot open log file: ".toList ++ file)
  | .notDecoded file => some ("File is not valid UTF-8: ".toList ++ file)
  | .notRead file obstacle =>
      some ("Failed to read file: ".toList ++ file ++ ['\n'] ++
        (obstacleText obstacle).toList ++ ": ".toList ++ Quoted.encode file)
  | .badPattern error => patternMessage? error
  | .badTemplate message => some ("Template error: ".toList ++ message)
  | .notAName => none
  | .impossibleName => none
  | .nameWithoutBytes => none
  | .nameTooLong => none
  | .tooDeep => none
  | .notDisplayable => none
  | .inputNotDecoded => none
  | .notPrinted _ => none

end Command
end WildcardDiff
