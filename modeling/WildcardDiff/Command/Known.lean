import WildcardDiff.Command.Check
import WildcardDiff.Text.Lines
import WildcardDiff.Yaml.Basic

/-!
# Surroundings that are known

Streams of texts in UTF-8, and libraries as far as they are known here: a reader of
plain YAML, and an engine for the templates that can be read. All that is shown of runs
is shown whatever the surroundings are; these are for running the program, and for
examples.
-/

namespace WildcardDiff
namespace Command

/-- Streams of texts in UTF-8. Carriage returns in the input count as line feeds. -/
def Streams.unicode (input : List UInt8) : Streams where
  input
  decode bytes := (String.fromUTF8? (ByteArray.mk bytes.toArray)).map fun content =>
    Text.join ['\n'] (Lines.pieces content.toList)
  takes points := !points.any CodePoint.isSurrogate

/-- The libraries that are known. -/
def Libraries.known : Libraries where
  reader := Yaml.value
  engine := Template.engine
  dashes := .kept

/-- Some files and an environment, with nothing in the input and no clock. -/
def Surroundings.ofFiles
    (files : Files)
    (environment : Settings.Environment) : Surroundings where
  files
  environment
  streams := .unicode []
  libraries := .known
  canMerge := fun _ => true
  clock := fun _ => []

end Command
end WildcardDiff
