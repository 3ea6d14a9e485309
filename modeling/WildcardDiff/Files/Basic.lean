import WildcardDiff.Files.Place

/-!
# Files

What stands at places. A file holds a text, or bytes that are no text, of which only the
number is known; a device takes whatever is written to it and holds nothing. The
directories on the way to a file exist with it, and so do the directories at which
places begin.

Names are written in UTF-8. No name is a link, and everything may be read and written. A
name is followed from directory to directory, so that it leads nowhere if one of them is
missing. A file is written only where its directory exists, and is created if it is not
there.
-/

namespace WildcardDiff

/-- What stands at a place. -/
inductive File
  | directory
  | text (content : Text)
  | bytes (count : Nat)
  | device
  deriving DecidableEq

/-- The number of bytes that a text takes. -/
def Files.size (text : Text) : Nat :=
  (String.ofList text).utf8ByteSize

/-- The text that a file holds, if it holds one. -/
def File.text? : File -> Option Text
  | .text content => some content
  | .device => some []
  | _ => none

/-- The number of bytes in a file, if it keeps what is written to it. -/
def File.size? : File -> Option Nat
  | .text content => some (Files.size content)
  | .bytes count => some count
  | _ => none

/-- A file with a text written at its end. -/
def File.append : File -> Text -> File
  | .text content, added => .text (content ++ added)
  | .bytes count, added => .bytes (count + Files.size added)
  | file, _ => file

/-- Why a name leads to no file. -/
inductive Obstacle
  | missing
  /-- The name leads through something that is no directory. -/
  | notDirectory
  | isDirectory
  | tooLong
  /-- The name has a zero character. -/
  | impossible
  deriving DecidableEq

/-- What stands at places, and where the users have their own directories. The user who
runs the program has the empty name. -/
structure Files where
  entries : List (Place × File)
  homes : List (Text × Text)

namespace Files

/-- What stands at a place. A later entry for the same place counts. -/
def at? (files : Files) (place : Place) : Option File :=
  match files.entries.reverse.lookup place with
  | some file => some file
  | none =>
      let isOnTheWay := files.entries.any fun entry => place.leadsTo entry.1
      if place.names = [] ∨ isOnTheWay then some .directory else none

/-- The most bytes in a part of a name. -/
def partLimit : Nat := 255

/-- The most bytes in a name. -/
def nameLimit : Nat := 4095

/-- Take the step from a place that one part of a name asks for. -/
def step (files : Files) (place : Place) (part : Text) : Except Obstacle Place :=
  match files.at? place with
  | none => .error .missing
  | some .directory =>
      if partLimit < size part then .error .tooLong else .ok (place.follow part)
  | some _ => .error .notDirectory

/-- The place that a name leads to, and what stands there. -/
def find (files : Files) (name : Text) : Except Obstacle (Place × File) :=
  if name.contains '\x00' then
    .error .impossible
  else if nameLimit < size name then
    .error .tooLong
  else do
    let place ← (Place.parts name).foldlM files.step (Place.start name)
    match files.at? place with
    | some file => return (place, file)
    | none => throw .missing

/-- The text of the file that a name leads to, if it holds one. -/
def text? (files : Files) (name : Text) : Option Text :=
  match files.find name with
  | .ok (_, file) => file.text?
  | .error _ => none

/-- The place of the file that a name leads to if it can be written. Two points in the
name lead to the directory above even from a directory that is missing. -/
def target (files : Files) (name : Text) : Except Obstacle Place :=
  let place := Place.ofName name
  match files.find place.name with
  | .ok (_, .directory) => .error .isDirectory
  | .ok (found, _) => .ok found
  | .error .missing =>
      match files.find place.parent.name with
      | .ok (_, .directory) => .ok place
      | _ => .error .missing
  | .error obstacle => .error obstacle

/-- Write a text at the end of the file at a place, which is created if it is not
there. -/
def append (files : Files) (place : Place) (added : Text) : Files :=
  match files.at? place with
  | some .directory => files
  | some file => { files with entries := files.entries ++ [(place, file.append added)] }
  | none => { files with entries := files.entries ++ [(place, .text added)] }

end Files
end WildcardDiff
