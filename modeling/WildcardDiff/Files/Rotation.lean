import WildcardDiff.Files.Basic
import WildcardDiff.Text.Digit

/-!
# Log files

A log file takes one line after the other. If a line would fill it, the log file is put
aside as the first of its backups and begun anew. Each backup that is there makes room
for the one before it, and the last one is given up. The names of the backups are that
of the log file with a number behind it.
-/

namespace WildcardDiff

/-- The place of a backup of a log file. The log file itself has the number zero. -/
def Place.backup (place : Place) : Nat -> Place
  | 0 => place
  | number + 1 =>
      let name := place.names.getLastD [] ++ '.' :: Digit.ofNat (number + 1)
      { place with names := place.names.dropLast ++ [name] }

/-- Whether the name of a place is too long. -/
def Place.isLong (place : Place) : Bool :=
  Files.nameLimit < Files.size place.name ||
    place.names.any fun part => Files.partLimit < Files.size part

namespace Files

/-! ## Moving -/

/-- Where an entry goes if what stands at a place is moved to another one. What stood
there is given up. -/
def moveEntry (source target : Place) (entry : Place × File) : Option (Place × File) :=
  if source.leadsTo entry.1 then
    let names := target.names ++ entry.1.names.drop source.names.length
    some (⟨target.base, names⟩, entry.2)
  else if target.leadsTo entry.1 then none
  else some entry

/-- Move what stands at a place to another one, if anything does. A directory cannot be
given up for it. -/
def move? (files : Files) (source target : Place) : Option Files :=
  match files.at? source with
  | none => some files
  | some _ =>
      if files.at? target = some .directory ∨ target.isLong then none
      else some { files with
        entries := files.entries.filterMap (moveEntry source target) }

/-- Make moves one after the other, until one of them fails. The result tells whether
none does. -/
def moveAll (files : Files) : List (Place × Place) -> Files × Bool
  | [] => (files, true)
  | (source, target) :: moves =>
      match files.move? source target with
      | some moved => moved.moveAll moves
      | none => (files, false)

/-! ## Rotation -/

/-- The number of bytes that fill a log file. -/
def fullSize : Nat := 5 * 1024 * 1024

/-- The number of backups that are kept. -/
def backupCount : Nat := 3

/-- The moves that put a log file aside, beginning with its last backup but one. -/
def backupMoves (log : Place) : List (Place × Place) :=
  (List.range backupCount).reverse.map fun number =>
    (log.backup number, log.backup (number + 1))

/-- Whether a line would fill the log file at a place. It is the characters of the line
that count, and the bytes of the file. -/
def isFilled (files : Files) (log : Place) (line : Text) : Bool :=
  ((files.at? log).bind File.size?).any fun size => fullSize ≤ size + line.length

/-- Write a line to the log file at a place, which is put aside before it is full. If
that fails, the line is lost. -/
def addLine (files : Files) (log : Place) (line : Text) : Files :=
  if files.isFilled log line then
    match files.moveAll (backupMoves log) with
    | (moved, true) => moved.append log line
    | (moved, false) => moved
  else
    files.append log line

/-- Write lines to the log file at a place, which is there from the beginning. -/
def addLines (files : Files) (log : Place) (lines : List Text) : Files :=
  lines.foldl (fun files line => files.addLine log line) (files.append log [])

end Files
end WildcardDiff
