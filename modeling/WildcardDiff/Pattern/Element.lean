import WildcardDiff.Pattern.Event
import WildcardDiff.Pattern.Options
import WildcardDiff.Pattern.CharSet

/-!
# Pattern elements

The events of a pattern, put together into the elements that are matched one after the
other: a literal, any one character, one character of a set, or any run of characters.
Literals are stored without their letter case when case is ignored.
-/

namespace WildcardDiff

/-- One element of a pattern. -/
inductive Element
  | literal (folded : Text)
  | anyChar
  | oneOf (set : CharSet)
  | anyRun
  deriving DecidableEq

namespace Element

/-- The name of the kind of an element. -/
def kindName : Element -> String
  | .literal _ => "literal"
  | .anyChar => "any_char"
  | .oneOf _ => "any_char_in_set"
  | .anyRun => "any_run"

/-- The names of all kinds of elements. -/
def kindNames : List String :=
  [.literal [], .anyChar, .oneOf (.empty false), .anyRun].map kindName

/-- The elements of a list of events, of which the set that is open holds the members so
far. -/
def ofEventsFrom (options : Options) : CharSet -> List Event -> List Element
  | _, [] => []
  | set, .literal char :: events =>
      .literal (options.folding.apply [char]) :: ofEventsFrom options set events
  | set, .star :: events => .anyRun :: ofEventsFrom options set events
  | set, .question :: events => .anyChar :: ofEventsFrom options set events
  | _, .setOpen :: events => ofEventsFrom options (.empty options.ignoreCase) events
  | set, .setMember char :: events => ofEventsFrom options (set.addMember [char]) events
  | set, .setRange low high :: events =>
      ofEventsFrom options (set.addRange [low] [high]) events
  | set, .setClose :: events => .oneOf set :: ofEventsFrom options set events

/-- The elements of a list of events. -/
def ofEvents (options : Options) (events : List Event) : List Element :=
  ofEventsFrom options (.empty options.ignoreCase) events

end Element

/-- What is matched at one place: a character, or a text in its stead, as it is and
without its letter case. -/
structure Symbol where
  plain : Text
  folded : Text
  deriving DecidableEq

/-- The symbol of a text. -/
def Folding.symbol (folding : Folding) (text : Text) : Symbol :=
  ⟨text, folding.apply text⟩

/-- The symbols of a text: its characters. -/
def Folding.symbols (folding : Folding) (text : Text) : List Symbol :=
  text.map fun char => folding.symbol [char]

namespace Element

/-- Whether an element takes a symbol. Literals look at its folded form, sets at the
symbol as it is. A run takes none by itself. -/
def takes (symbol : Symbol) : Element -> Bool
  | .literal expected => expected = symbol.folded
  | .anyChar => true
  | .oneOf set => set.contains symbol.plain
  | .anyRun => false

/-- Whether an element is a set. -/
def isSet : Element -> Bool
  | .oneOf _ => true
  | _ => false

end Element
end WildcardDiff
