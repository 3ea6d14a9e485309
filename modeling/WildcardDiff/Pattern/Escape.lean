import WildcardDiff.Pattern.Event
import WildcardDiff.Value.Basic

/-!
# Escaping

Escaping puts a mark before the characters of a text that have a meaning of their own in
patterns, so that the text can be used as a pattern for itself; unescaping takes the marks
away again. Both work on a list of symbols of any type. For texts the symbols are
characters; loosely typed input may also be a list, whose items are then the symbols.
-/

namespace WildcardDiff
namespace Escape

/-- Put a mark before each symbol that needs one. -/
def insertMarks (mark : α) (needs : α -> Bool) (symbols : List α) : List α :=
  symbols.flatMap fun symbol => if needs symbol then [mark, symbol] else [symbol]

/-- Take marks away. A mark before a symbol with a meaning of its own is dropped, a
doubled mark becomes one, and any other mark stays, one at the end included. A mark that
was read and may still be dropped is pending. -/
def removeMarks (isMark hasMeaning : α -> Bool) : (pending : Option α) -> List α -> List α
  | pending, [] => pending.toList
  | pending, symbol :: rest =>
      if isMark symbol then
        match pending with
        | some _ => symbol :: removeMarks isMark hasMeaning none rest
        | none => removeMarks isMark hasMeaning (some symbol) rest
      else if hasMeaning symbol then
        symbol :: removeMarks isMark hasMeaning none rest
      else
        pending.toList ++ symbol :: removeMarks isMark hasMeaning none rest

/-- Escape every character of a text that has a meaning of its own, except those to
keep. -/
def escape (mark : Char) (keep : Text) (text : Text) : Text :=
  insertMarks mark (fun char => isMeta char && !keep.contains char) text

/-- Undo the escaping of a text. -/
def unescape (mark : Char) (text : Text) : Text :=
  removeMarks (· = mark) isMeta none text

/-- Whether a text holds a character with a meaning of its own that is not escaped. Such a
character counts even where it is the mark itself. -/
def containsWildcards (mark : Option Char) : Text -> Bool
  | [] => false
  | [char] => isMeta char
  | char :: next :: rest =>
      if isMeta char then true
      else if mark = some char then containsWildcards mark rest
      else containsWildcards mark (next :: rest)

/-- Why a value cannot be escaped or unescaped. -/
inductive SymbolError
  /-- There is no value. -/
  | missing
  /-- The value, or a symbol of it, is no text. -/
  | notText
  /-- A mapping does not have its symbols under the numbers from zero on. -/
  | notNumbered
  deriving DecidableEq

/-- The message of a failure. -/
def SymbolError.message : SymbolError -> String
  | .missing => "text must not be None"
  | .notText => "symbols must be texts"
  | .notNumbered => "symbols must be numbered"

/-- The symbols of a value: the characters of a text, the items of a list, or the keys
of a mapping. -/
def symbolsOfValue : Value -> Except SymbolError (List Value)
  | .null => .error .missing
  | .text value => .ok (value.toList.map fun char => .ofText [char])
  | .list items => .ok items
  | .mapping entries => .ok (entries.map fun entry => Value.ofKey entry.1)
  | _ => .error .notText

/-- Whether a symbol is a single character with a meaning of its own. -/
def isMetaSymbol (symbol : Value) : Bool :=
  match symbol.text?.map String.toList with
  | some [char] => isMeta char
  | _ => false

/-- The text of a list of symbols, if all of them are texts. -/
def joinSymbols (symbols : List Value) : Except SymbolError Text :=
  match symbols.mapM Value.text? with
  | some texts => .ok (texts.flatMap String.toList)
  | none => .error .notText

/-- Whether a value lists a symbol among those to keep: as a character of a text, an
item of a list, or a key of a mapping. Other values list nothing. -/
def keeps? (keep symbol : Value) : Option Bool :=
  match keep, symbol with
  | .text kept, .text content => some (content.toList.all kept.toList.contains)
  | .list items, symbol => some (items.any symbol.same)
  | .mapping entries, .text content => some (Entries.has entries (.text content))
  | _, _ => none

/-- Escape a value. The mark is any text, or no text at all as long as none is needed, and
the symbols to keep matter only where a mark could be needed. -/
def escapeValue (mark keep value : Value) : Except SymbolError Text := do
  let symbols ← symbolsOfValue value
  let special := symbols.filter isMetaSymbol
  if special.any fun symbol => (keeps? keep symbol).isNone then
    throw .notText
  else
    let needs (symbol : Value) : Bool :=
      isMetaSymbol symbol && keeps? keep symbol = some false
    joinSymbols (insertMarks mark needs symbols)

/-- Unescape a value. The symbols that equal the mark are marks, of whatever kind. -/
def unescapeValue (mark value : Value) : Except SymbolError Text := do
  let symbols ← symbolsOfValue value
  joinSymbols (removeMarks (fun symbol => symbol.same mark) isMetaSymbol none symbols)

/-- Whether a value is a single character with a meaning of its own. A value without a
length is refused, and so is a collection of one. -/
def valueIsMeta (value : Value) : Except SymbolError Bool :=
  match value, value.length? with
  | .text _, _ => .ok (isMetaSymbol value)
  | _, some 1 => .error .notText
  | _, some _ => .ok false
  | _, none => .error .notText

/-- Whether symbols hold one with a meaning of its own that is not escaped; `none`
stands for a symbol that is not there. The symbol after a mark is not looked at. -/
def symbolsContainWildcards (mark : Value) :
    (skipping : Bool) -> List (Option Value) -> Except SymbolError Bool
  | _, [] => .ok false
  | true, _ :: rest => symbolsContainWildcards mark false rest
  | false, none :: _ => .error .notNumbered
  | false, some symbol :: rest => do
      if ← valueIsMeta symbol then return true
      else symbolsContainWildcards mark (symbol.same mark) rest

/-- Whether a value holds an unescaped character with a meaning of its own. Values that
count as false hold none. The symbols of a mapping stand under the numbers from zero
on. -/
def valueContainsWildcards (mark value : Value) : Except SymbolError Bool :=
  match value with
  | .text content =>
      let single :=
        match mark.text?.map String.toList with
        | some [char] => some char
        | _ => none
      .ok (containsWildcards single content.toList)
  | .list items => symbolsContainWildcards mark false (items.map some)
  | .mapping entries =>
      symbolsContainWildcards mark false ((List.range entries.length).map fun number =>
        Entries.get? entries (.int (number : Nat)))
  | other => if other.isTruthy then .error .notText else .ok false

end Escape
end WildcardDiff
