import WildcardDiff.Value.Written

/-!
# Templates

A template is a text with gaps. A gap shows what a name stands for, a loop goes through
a list, and a choice depends on whether something counts as true. What names stand for
is given by a scope, to which a loop adds the name of its item.
-/

namespace WildcardDiff

/-- What a name stands for: a value, a list, or a record of named fields. -/
inductive Item
  | value (value : Value)
  | list (items : List Item)
  | record (fields : List (String × Item))

namespace Item

/-- A field of a record. -/
def field? : Item -> String -> Option Item
  | .record fields, name => fields.lookup name
  | _, _ => none

/-- Whether an item counts as true. -/
def isTruthy : Item -> Bool
  | .value single => single.isTruthy
  | .list items => !items.isEmpty
  | .record _ => true

end Item

namespace Template

/-- What names stand for. The first entry of a name counts. -/
abbrev Scope := List (String × Item)

/-- A filter that cannot take an item of a kind. -/
structure FilterError where
  kind : String
  deriving DecidableEq

/-- The filters by their names. A filter shows an item in a way of its own. -/
abbrev Filters := List (String × (Item -> Except FilterError Points))

/-- What a gap, a loop or a choice refers to: what a name stands for, or a field of it. -/
structure Reference where
  name : String
  fields : List String := []
  deriving DecidableEq

end Template

/-- A template. -/
inductive Template
  /-- The end of a template. -/
  | nil
  | char
      (char : Char)
      (rest : Template)
  /-- A gap that shows an item, by a filter if one is named. -/
  | gap
      (reference : Template.Reference)
      (filter : Option String)
      (rest : Template)
  /-- A body for each item of a list, which has a name in it. -/
  | loop
      (name : String)
      (items : Template.Reference)
      (body rest : Template)
  | choice
      (condition : Template.Reference)
      (body otherwise rest : Template)
  deriving DecidableEq

namespace Template

/-- A template that begins with a text. -/
def text (content : String) (rest : Template) : Template :=
  content.toList.foldr char rest

/-! ## Rendering -/

/-- Why a template is not rendered. -/
inductive Trouble
  /-- A name, or a field of what it stands for, is not defined. -/
  | undefined (name : String)
  | filter (error : FilterError)
  /-- What becomes of such a template is left open here. -/
  | unsettled
  deriving DecidableEq

/-- What a reference leads to. -/
def Reference.follow (reference : Reference) (scope : Scope) : Except Trouble Item :=
  match scope.lookup reference.name with
  | none => .error (.undefined reference.name)
  | some item =>
      reference.fields.foldlM (fun item name =>
        (item.field? name).elim (.error (.undefined name)) .ok) item

/-- What a gap shows. Whole values are written in their plain form, numbers at any
length. -/
def shown
    (filters : Filters)
    (reference : Reference)
    (filter : Option String)
    (scope : Scope) : Except Trouble Points :=
  match filter with
  | none => do
      match ← reference.follow scope with
      | .value value => return value.points
      | _ => throw .unsettled
  | some name =>
      match filters.lookup name with
      | none => .error .unsettled
      | some apply =>
          match reference.follow scope with
          | .error _ => .error .unsettled
          | .ok item => (apply item).mapError .filter

/-- The items that a loop goes through. -/
def Reference.items
    (reference : Reference)
    (scope : Scope) : Except Trouble (List Item) := do
  match ← reference.follow scope with
  | .list items => return items
  | _ => throw .unsettled

/-- The text of a template in a scope. -/
def render (filters : Filters) : Template -> Scope -> Except Trouble Points
  | .nil, _ => .ok []
  | .char first rest, scope => do
      let others ← rest.render filters scope
      return .character first :: others
  | .gap reference filter rest, scope => do
      let first ← shown filters reference filter scope
      let others ← rest.render filters scope
      return first ++ others
  | .loop name items body rest, scope => do
      let listed ← items.items scope
      let parts ← listed.mapM fun item => body.render filters ((name, item) :: scope)
      let others ← rest.render filters scope
      return parts.flatten ++ others
  | .choice condition body otherwise rest, scope => do
      let decisive ← condition.follow scope
      let chosen ←
        if decisive.isTruthy then body.render filters scope
        else otherwise.render filters scope
      let others ← rest.render filters scope
      return chosen ++ others

end Template
end WildcardDiff
