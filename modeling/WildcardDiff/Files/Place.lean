import WildcardDiff.Text.Basic

/-!
# Places

Where files are, and the names that lead there. A name is a row of parts between
slashes. It starts at the root of all directories if it begins with a slash, and at the
working directory otherwise. An empty part and a single point stay where they are, and
two points lead to the directory above.
-/

namespace WildcardDiff

/-- The directories at which places begin. -/
inductive Base
  | root
  /-- The directory so many levels above the working directory. -/
  | above (levels : Nat)
  deriving DecidableEq

/-- The directory above a base. The root has none and is its own. -/
def Base.parent : Base -> Base
  | .root => .root
  | .above levels => .above (levels + 1)

/-- A place: the names that lead there from a base, one directory after the other. -/
structure Place where
  base : Base
  names : List Text
  deriving DecidableEq

namespace Place

/-- The root of all directories. -/
def root : Place := ⟨.root, []⟩

/-- The working directory. -/
def working : Place := ⟨.above 0, []⟩

/-- The directory above a place. -/
def parent (place : Place) : Place :=
  if place.names = [] then ⟨place.base.parent, []⟩
  else { place with names := place.names.dropLast }

/-- Whether a part of a name stays where it is. -/
def stays (part : Text) : Bool :=
  part = [] || part = ['.']

/-- Whether a part of a name leads to the directory above. -/
def leadsUp (part : Text) : Bool :=
  part = ['.', '.']

/-- Follow one part of a name. -/
def follow (place : Place) (part : Text) : Place :=
  if stays part then place
  else if leadsUp part then place.parent
  else { place with names := place.names ++ [part] }

@[simp] theorem follow_nil (place : Place) : place.follow [] = place := rfl

@[simp] theorem follow_point (place : Place) : place.follow ['.'] = place := rfl

@[simp] theorem follow_points (place : Place) :
    place.follow ['.', '.'] = place.parent := rfl

/-- The parts of a name. -/
def parts (name : Text) : List Text :=
  Text.splitAtChar '/' name

/-- The place at which a name starts. -/
def start (name : Text) : Place :=
  if name.head? = some '/' then root else working

/-- The place that a name leads to if all directories on the way exist. -/
def ofName (name : Text) : Place :=
  (parts name).foldl follow (start name)

/-- The shortest name of a place. -/
def name (place : Place) : Text :=
  match place.base with
  | .root => '/' :: Text.join ['/'] place.names
  | .above levels => Text.join ['/'] (List.replicate levels ['.', '.'] ++ place.names)

/-- Whether a place is a directory on the way to another place, or that place itself. -/
def leadsTo (place other : Place) : Bool :=
  place.base = other.base && place.names.isPrefixOf other.names

end Place

/-- A name without the parts that stay where they are. -/
def tidied (name : Text) : Text :=
  let parts := Text.join ['/'] ((Place.parts name).filter fun part => !Place.stays part)
  if name.head? = some '/' then '/' :: parts else parts

/-- The shortest name of the place that a name leads to if all directories on the way
exist. -/
def resolved (name : Text) : Text :=
  (Place.ofName name).name

end WildcardDiff
