import WildcardDiff.Files.Basic

/-!
# Home directories

A tilde in front of a name stands for the home directory of a user: of the one whose name
follows it, or of the one who runs the program.
-/

namespace WildcardDiff
namespace Files

/-- A text without the slashes at its end. -/
def dropSlashes (text : Text) : Text :=
  (text.reverse.dropWhile (· = '/')).reverse

/-- The home directory of a user. Without its last slashes the root has no name left,
and gets its own back. -/
def home? (files : Files) (user : Text) : Option Text :=
  (files.homes.lookup user).map fun home =>
    if dropSlashes home = [] then ['/'] else dropSlashes home

/-- A name with a home directory in place of the tilde in front of it. There is none if
the user is unknown or the home directory begins with a tilde itself. -/
def expand? (files : Files) (name : Text) : Option Text :=
  let tidy := tidied name
  match Place.parts tidy with
  | ('~' :: user) :: parts =>
      match files.home? user with
      | none => none
      | some ('~' :: _) => none
      | some home => some (Text.join ['/'] (home :: parts))
  | _ => some tidy

/-- The directories that every system has, and the device that holds nothing. -/
def systemEntries : List (Place × File) :=
  [⟨.ofName "/dev/null".toList, .device⟩, ⟨.ofName "/etc".toList, .directory⟩,
    ⟨.ofName "/home".toList, .directory⟩, ⟨.ofName "/root".toList, .directory⟩,
    ⟨.ofName "/tmp".toList, .directory⟩, ⟨.ofName "/usr/bin".toList, .directory⟩,
    ⟨.ofName "/var".toList, .directory⟩]

/-- The home directory of the user who runs the program, if the environment names none. -/
def defaultHome : Text := "/root".toList

/-- The files of a system whose working directory has the given entries. -/
def ofEntries (entries : List (Place × File)) (home : Option Text) : Files :=
  ⟨systemEntries ++ entries,
    [([], home.getD defaultHome), ("root".toList, defaultHome),
      ("nobody".toList, "/nonexistent".toList)]⟩

end Files
end WildcardDiff
