import WildcardDiff.ErrorCode
import WildcardDiff.Settings.Setting
import WildcardDiff.Value.Written

/-!
# Schemas

A schema says of which kind the values at some keys of a mapping have to be. Keys that are
absent or null pass. Settings are valid if their merged tree has the kinds of a schema and
the escape setting, if there is one, is a single character.
-/

namespace WildcardDiff
namespace Settings

/-- A kind of values. -/
inductive Kind
  | text
  | bool
  | int
  | float
  | list
  | mapping
  deriving DecidableEq

namespace Kind

/-- The name of a kind. -/
def name : Kind -> String
  | .text => "str"
  | .bool => "bool"
  | .int => "int"
  | .float => "float"
  | .list => "list"
  | .mapping => "dict"

/-- All kinds. -/
def all : List Kind :=
  [.text, .bool, .int, .float, .list, .mapping]

/-- Whether a value is of a kind. A truth value is a whole number too. -/
def admits : Kind -> Value -> Bool
  | .text, .text _ => true
  | .text, .surrogates _ => true
  | .bool, .bool _ => true
  | .int, .int _ => true
  | .int, .bool _ => true
  | .float, .float _ => true
  | .list, .list _ => true
  | .mapping, .mapping _ => true
  | _, _ => false

end Kind

/-- What a value has to be: of a kind, or a mapping whose entries follow a schema. -/
inductive Schema
  | kind (kind : Kind)
  | entries (entries : List (String × Schema))

/-- The schemas of the sections that the program knows. -/
def Schema.sections : List (String × Schema) :=
  [("pattern", .entries [
      ("escape_character", .kind .text),
      ("case_insensitive", .kind .bool),
      ("culture_invariant", .kind .bool)]),
    ("diff", .entries [
      ("placeholder", .kind .text),
      ("mismatch_hints", .kind .bool),
      ("enhanced", .kind .bool)]),
    ("logging", .entries [
      ("level", .kind .text)])]

/-- The names of the sections in alphabetical order. -/
def Schema.sectionNames : List String :=
  (Schema.sections.map (·.1)).mergeSort

/-- The schema of the settings that the program knows. -/
def Schema.known : List (String × Schema) :=
  [(Setting.root, .entries Schema.sections)]

/-- Why settings are not valid. -/
inductive Invalid
  /-- The merged tree does not exist. -/
  | notMerged (error : TreeError)
  /-- The value at a key is not of the expected kind. -/
  | wrongKind
      (key : Text)
      (expected actual : String)
  /-- The escape setting has a length other than one. -/
  | escapeLength (escape : Value)
  /-- The escape setting has a length other than one, and no form that a message could
  show. -/
  | escapeNotWritable
  /-- The escape setting has no length. -/
  | escapeWithoutLength
  deriving Inhabited

/-- The message on settings that are not valid; some faults have none. -/
def Invalid.message? : Invalid -> Option Text
  | .wrongKind key expected actual =>
      some ("Expected ".toList ++ expected.toList ++ " for ".toList ++ key ++
        ", got ".toList ++ actual.toList)
  | .escapeLength escape =>
      some ("Expected a single character for ".toList ++ Setting.escapeCharacter.key ++
        ", got ".toList ++ escape.quoted)
  | _ => none

namespace Schema

mutual

/-- Check a value against a schema. The key is that of the value. -/
def check (key : Text) : Schema -> Value -> Except Invalid Unit
  | .kind wanted, value =>
      if wanted.admits value then .ok ()
      else .error (.wrongKind key wanted.name value.kindName)
  | .entries wanted, .mapping found => checkEntries (key ++ ['.']) wanted found
  | .entries _, value => .error (.wrongKind key Kind.mapping.name value.kindName)

/-- Check the entries of a mapping in the order of the schema. The path to the mapping is
put in front of their keys. -/
def checkEntries (path : Text) : List (String × Schema) -> Entries -> Except Invalid Unit
  | [], _ => .ok ()
  | (name, schema) :: rest, found => do
      match Entries.get? found (.text name) with
      | none => pure ()
      | some .null => pure ()
      | some value => check (path ++ name.toList) schema value
      checkEntries path rest found

end

end Schema

/-- Check that an escape setting is a single character. -/
def checkEscape : Value -> Except Invalid Unit
  | .null => .ok ()
  | escape =>
      match escape.length? with
      | some 1 => .ok ()
      | some _ => .error
          (if escape.isWritable then .escapeLength escape else .escapeNotWritable)
      | none => .error .escapeWithoutLength

/-- Check the merged tree of all layers against a schema, and then the escape setting. An
empty schema stands for that of the known settings. -/
def Layers.validate
    (layers : Layers)
    (schema : List (String × Schema)) : Except Invalid Unit := do
  let chosen := if schema.isEmpty then Schema.known else schema
  match layers.merged with
  | .error error => .error (.notMerged error)
  | .ok (.mapping entries) => Schema.checkEntries [] chosen entries
  | .ok _ => .error (.notMerged .notMapping)
  checkEscape (layers.choose .escapeCharacter .null)

end Settings
end WildcardDiff
