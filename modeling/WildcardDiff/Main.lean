import WildcardDiff.Command.Known
import WildcardDiff.Command.Run

/-!
# The program

The outer layer: it looks at the files that the arguments lead to, hands them over
together with the environment and standard input, and passes on what the run leaves
behind. YAML is read and templates are rendered as far as they are known here. There is
no clock at hand, so that the records of the log have blanks for their times.
-/

namespace WildcardDiff
namespace Command

/-- What stands under a name on the disk. -/
def lookUp (name : Text) : IO (Option File) := do
  try
    let bytes ← IO.FS.readBinFile (String.ofList name)
    match String.fromUTF8? bytes with
    | some content => return some (.text content.toList)
    | none => return some (.bytes bytes.size)
  catch error =>
    match error with
    | .noFileOrDirectory _ _ _ => return none
    | _ => return some .directory

/-- A variable of the environment, from a name and a value around an equals sign. -/
def variableOf (entry : Text) : String × Text :=
  let (name, value) := splitValue entry
  (String.ofList name, value.getD [])

/-- The variables of the environment. -/
def readEnvironment : IO Settings.Environment := do
  match ← lookUp "/proc/self/environ".toList with
  | some (.text content) =>
      let entries := (Text.splitAtChar '\x00' content).filter (· ≠ [])
      return Named.ofPairs (entries.map variableOf)
  | _ => return []

/-- The places on the way to the place of a name, and that place. -/
def placesOnTheWay (name : Text) : List Place :=
  let place := Place.ofName name
  (List.range (place.names.length + 1)).map fun count =>
    { place with names := place.names.take count }

/-- What stands at places. -/
def lookUpAll (places : List Place) : IO (List (Place × File)) := do
  let found ← places.mapM fun place => do
    return (← lookUp place.name).map fun file => (place, file)
  return found.filterMap id

/-- The files on the way to the given names. -/
def readFiles (names : List Text) (home : Option Text) : IO Files := do
  let unread : Files := .ofEntries [] home
  let expanded := names.filterMap unread.expand?
  return .ofEntries (← lookUpAll ((names ++ expanded).flatMap placesOnTheWay)) home

/-- The number of bytes that are read at once. -/
def readSize : USize := 4096

/-- The rest of the bytes of a stream, behind those that were read. -/
partial def readRest (stream : IO.FS.Stream) (read : List UInt8) : IO (List UInt8) := do
  let bytes ← stream.read readSize
  if bytes.isEmpty then return read else readRest stream (read ++ bytes.toList)

/-- The time of a record, while there is no clock. -/
def noTime : Text := List.replicate 19 ' '

/-- The place of the log file with a name. -/
def logPlace (name : Text) : Place :=
  Place.ofName (resolved name)

/-- The names of a log file and its backups. -/
def logNames (name : Text) : List Text :=
  (List.range (Files.backupCount + 1)).map fun number =>
    ((logPlace name).backup number).name

/-- Leave a log file as a run left it, behind its backups if it was put aside. -/
def writeLog (before after : Files) (log : Place) : IO Unit := do
  if before.at? (log.backup 1) ≠ after.at? (log.backup 1) then
    for (source, target) in Files.backupMoves log do
      if (before.at? source).isSome then
        IO.FS.rename (String.ofList source.name) (String.ofList target.name)
  match after.at? log with
  | some (.text content) =>
      IO.FS.writeFile (String.ofList log.name) (String.ofList content)
  | _ => pure ()

/-- Run the program in its real surroundings, and return its code. -/
def runReal (arguments : List Text) : IO UInt32 := do
  let environment ← readEnvironment
  let home := environment.lookup "HOME"
  let names := fileNames Libraries.known.dashes arguments
  let input ←
    if names.contains inputName then readRest (← IO.getStdin) [] else pure []
  let surroundings : Surroundings := {
    files := ← readFiles names home
    environment
    streams := .unicode input
    libraries := .known
    canMerge := fun _ => true
    clock := fun _ => noTime }
  let logFile := surroundings.logFile? arguments
  let files ← readFiles (names ++ logFile.toList.flatMap logNames) home
  let outcome := { surroundings with files }.run arguments
  match logFile with
  | some name => writeLog files outcome.files (logPlace name)
  | none => pure ()
  IO.print (String.ofList (CodePoint.joined outcome.output))
  IO.eprint (String.ofList outcome.errors)
  match outcome.ending with
  | .code code => return UInt32.ofNat code
  | .halted code => return UInt32.ofNat code
  | .failed _ => return 1

end Command
end WildcardDiff

/-- Run the program. -/
def main (arguments : List String) : IO UInt32 :=
  WildcardDiff.Command.runReal (arguments.map String.toList)
