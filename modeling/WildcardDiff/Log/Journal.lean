import WildcardDiff.Log.Level
import WildcardDiff.Log.Context

/-!
# Journals

A journal holds the records that were logged and the contexts of the scopes that are open.
Every record carries the contexts of all open scopes, the outermost first, merged with its
own.
-/

namespace WildcardDiff
namespace Log

/-- A logged message. -/
structure Record where
  level : Level
  message : Text
  context : Context

/-- The records logged so far, and the contexts of the open scopes, the outermost
first. -/
structure Journal where
  scopes : List Context
  records : List Record

namespace Journal

/-- The journal in which nothing was logged and no scope is open. -/
def empty : Journal := ⟨[], []⟩

/-- The merged context of the open scopes. -/
def context (journal : Journal) : Context :=
  journal.scopes.foldl Context.merge []

/-- Open a scope. -/
def enter (journal : Journal) (context : Context) : Journal :=
  { journal with scopes := journal.scopes ++ [context] }

/-- Open a scope, unless its context uses a reserved name. -/
def enter? (journal : Journal) (context : Context) : Option Journal :=
  if context.usesAny reservedInScope then none else some (journal.enter context)

/-- Close the innermost scope. -/
def leave (journal : Journal) : Journal :=
  { journal with scopes := journal.scopes.dropLast }

/-- The record of a message in the open scopes. -/
def record
    (journal : Journal)
    (level : Level)
    (message : Text)
    (own : Context) : Record :=
  let context := journal.context.merge own
  ⟨level, withContext message context, context⟩

/-- Log a message, unless its level is below the threshold. -/
def log
    (journal : Journal)
    (threshold level : Level)
    (message : Text)
    (own : Context) : Journal :=
  if level.reaches threshold then
    { journal with records := journal.records ++ [journal.record level message own] }
  else
    journal

end Journal
end Log
end WildcardDiff
