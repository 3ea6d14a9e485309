import WildcardDiff.Named
import WildcardDiff.Value.Written

/-!
# Log contexts

A context is a list of named values that is attached to a log message. Merging puts the
pairs of one context into another: a name that is already there keeps its place and takes
the new value, other names follow in their order.

Every value in a context can be written. A whole number of more digits than
`Numeral.digitLimit` has no written form and would keep its message from being logged; no
context described here holds one.
-/

namespace WildcardDiff
namespace Log

/-- Named values, in the order in which the names first appeared. -/
abbrev Context := Named Value

namespace Context

/-- Set the values of all names of another context. -/
def merge (context added : Context) : Context :=
  context.putAll added

/-- Whether a context uses one of the given names. -/
def usesAny (context : Context) (names : List String) : Bool :=
  context.any fun pair => names.contains pair.1

/-- The pairs of a context, as they stand behind a message. Each of their values has a
written form, as every value in a context does. -/
def written (context : Context) : Text :=
  Text.join [' '] (context.map fun pair => pair.1.toList ++ ['='] ++ pair.2.shown)

end Context

/-- The names that a scope's context must not use. -/
def reservedInScope : List String := ["self"]

/-- The names that the context of a message must not use. -/
def reservedInMessage : List String := ["self", "msg"]

/-- The names that the context of a failure's message must not use. -/
def reservedInFailure : List String := ["self", "msg", "exc"]

/-- A failure that is logged: its kind and its text. -/
structure Failure where
  kind : String
  text : Text

namespace Failure

/-- The text of a failure in a context. A failed look-up shows its key in quotes. -/
def shown (failure : Failure) : Text :=
  if failure.kind = "KeyError" then Quoted.encode failure.text else failure.text

/-- A context with the kind and text of a failure after it. -/
def describe (failure : Failure) (context : Context) : Context :=
  (context.put "exception_type" (.text failure.kind)).put "exception_message"
    (.ofText failure.shown)

end Failure

/-- A message with its context. An empty context adds nothing. -/
def withContext (message : Text) (context : Context) : Text :=
  if context.isEmpty then message else message ++ " | ".toList ++ context.written

end Log
end WildcardDiff
