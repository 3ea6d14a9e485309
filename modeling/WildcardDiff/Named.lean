/-!
# Named values

Values by name, in the order in which the names first appeared. A name that is set again
keeps its place and takes the new value.
-/

namespace WildcardDiff

/-- Values by name, in the order in which the names first appeared. -/
abbrev Named (α : Type) := List (String × α)

namespace Named

/-- Set the value of a name. -/
def put (named : Named α) (name : String) (value : α) : Named α :=
  match named with
  | [] => [(name, value)]
  | pair :: rest =>
      if pair.1 = name then (name, value) :: rest else pair :: put rest name value

/-- Set the values of all names of a list of pairs, one after the other. -/
def putAll (named : Named α) (pairs : List (String × α)) : Named α :=
  pairs.foldl (fun result pair => result.put pair.1 pair.2) named

/-- The named values that result from setting the given ones one after the other. -/
def ofPairs (pairs : List (String × α)) : Named α :=
  putAll [] pairs

end Named
end WildcardDiff
