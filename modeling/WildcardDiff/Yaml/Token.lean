import WildcardDiff.Yaml.Scalar

/-!
# Tokens

A YAML text as a list of tokens. Indentation opens and closes block collections, which
have tokens of their own. Whether a scalar or a collection is the key of a mapping shows
only when a colon follows it, so its place is remembered and the token of the key is put
there later. A fault ends the list, and takes the place of the tokens that a pending key
holds back. Tags, anchors, directives and block scalars are not read.
-/

namespace WildcardDiff
namespace Yaml

/-- The smallest parts of a YAML text. -/
inductive Token
  | documentStart
  | documentEnd
  | blockSequence
  | blockMapping
  | blockEnd
  | flowSequence
  | flowSequenceEnd
  | flowMapping
  | flowMappingEnd
  | item
  | comma
  | key
  | value
  | plain (content : Text)
  | quoted (content : List CodePoint)
  /-- Here the text breaks off. -/
  | broken (fault : Fault)
  deriving DecidableEq

/-- A place where a key may have begun. -/
structure KeyPlace where
  /-- The number of flow collections around it. -/
  depth : Nat
  /-- The number of tokens before it. -/
  slot : Nat
  /-- Whether it has to be a key, because the line begins a new entry. -/
  required : Bool
  cursor : Cursor

/-- The state of reading tokens. -/
structure Progress where
  cursor : Cursor
  /-- The tokens so far, the last one first. -/
  tokens : List Token
  /-- The columns of the open block collections, the innermost first. -/
  columns : List Nat
  /-- The number of open flow collections. -/
  depth : Nat
  /-- Whether a key may begin here. -/
  keyAllowed : Bool
  keyPlaces : List KeyPlace

namespace Progress

/-- The start of a text. -/
def start (text : Text) : Progress :=
  ⟨.start text, [], [], 0, true, []⟩

/-- Add a token at the end. -/
def emit (progress : Progress) (token : Token) : Progress :=
  { progress with tokens := token :: progress.tokens }

/-- Put a token after the given number of tokens. -/
def insertAt (progress : Progress) (slot : Nat) (token : Token) : Progress :=
  { progress with
    tokens := progress.tokens.insertIdx (progress.tokens.length - slot) token }

/-- Move over a number of characters. -/
def advance (progress : Progress) (count : Nat) : Progress :=
  { progress with cursor := progress.cursor.advance count }

/-- Say whether a key may begin at the next token. -/
def allowKey (progress : Progress) (keyAllowed : Bool) : Progress :=
  { progress with keyAllowed }

/-- Move to the next token. Outside of flow collections, a key may begin in a new line. -/
def skipBlanks (progress : Progress) : Progress :=
  let (length, broke) := blankRun false progress.cursor.rest
  (progress.advance length).allowKey
    (progress.keyAllowed || (broke && progress.depth = 0))

/-- The most characters that a key may have before its colon. -/
def keyLimit : Nat := 1024

/-- Forget the places whose keys would be too long or would not fit into a line. -/
def dropStale (progress : Progress) : Except Fault Progress :=
  let isStale (place : KeyPlace) : Bool :=
    place.cursor.line ≠ progress.cursor.line ||
      keyLimit < progress.cursor.index - place.cursor.index
  if progress.keyPlaces.any fun place => isStale place && place.required then
    .error .malformed
  else
    .ok { progress with
      keyPlaces := progress.keyPlaces.filter fun place => !isStale place }

/-- The place of a possible key in the innermost flow collection. -/
def keyPlace? (progress : Progress) : Option KeyPlace :=
  progress.keyPlaces.find? fun place => place.depth = progress.depth

/-- Forget the place of a possible key in the innermost flow collection. -/
def forgetKey (progress : Progress) : Progress :=
  { progress with
    keyPlaces := progress.keyPlaces.filter fun place => place.depth ≠ progress.depth }

/-- Forget the place of a possible key, unless a key is required there. -/
def abandonKey (progress : Progress) : Except Fault Progress :=
  if progress.keyPlace?.any (·.required) then .error .malformed
  else .ok progress.forgetKey

/-- Remember this place as that of a possible key, if one may begin here. -/
def rememberKey (progress : Progress) : Except Fault Progress :=
  if progress.keyAllowed then
    progress.abandonKey.map fun cleared =>
      let required :=
        progress.depth = 0 && progress.columns.head? = some progress.cursor.column
      { cleared with
        keyPlaces :=
          ⟨progress.depth, progress.tokens.length, required, progress.cursor⟩ ::
            cleared.keyPlaces }
  else
    .ok progress

/-- Close the block collections whose columns fulfil a condition, from the innermost
on. -/
def closeBlocks (progress : Progress) (closes : Nat -> Bool) : Progress :=
  if progress.depth = 0 then
    let columns := progress.columns.dropWhile closes
    let closed := progress.columns.length - columns.length
    { progress with
      columns
      tokens := List.replicate closed .blockEnd ++ progress.tokens }
  else
    progress

/-- Whether a column lies deeper than the open block collections. -/
def isDeeper (progress : Progress) (column : Nat) : Bool :=
  progress.columns.head?.all (· < column)

/-- Open a block collection at this column, if it lies deeper than those that are open. -/
def openBlock (progress : Progress) (token : Token) : Progress :=
  let column := progress.cursor.column
  if progress.isDeeper column then
    { progress with columns := column :: progress.columns }.emit token
  else
    progress

/-- Read the mark of the start or the end of a document. -/
def document (progress : Progress) (token : Token) : Except Fault Progress :=
  ((progress.closeBlocks fun _ => true).abandonKey).map fun closed =>
    ((closed.allowKey false).advance 3).emit token

/-- Read the mark that opens a flow collection. -/
def flowStart (progress : Progress) (token : Token) : Except Fault Progress :=
  progress.rememberKey.map fun marked =>
    (({ marked with depth := marked.depth + 1 }.allowKey true).advance 1).emit token

/-- Read the mark that closes a flow collection. -/
def flowEnd (progress : Progress) (token : Token) : Except Fault Progress :=
  if progress.depth = 0 then
    .error .malformed
  else
    progress.abandonKey.map fun cleared =>
      (({ cleared with depth := cleared.depth - 1 }.allowKey false).advance 1).emit token

/-- Read a comma. -/
def comma (progress : Progress) : Except Fault Progress :=
  progress.abandonKey.map fun cleared => ((cleared.allowKey true).advance 1).emit .comma

/-- Read the dash in front of an item. -/
def item (progress : Progress) : Except Fault Progress :=
  if progress.depth = 0 && !progress.keyAllowed then
    .error .malformed
  else
    let opened :=
      if progress.depth = 0 then progress.openBlock .blockSequence else progress
    opened.abandonKey.map fun cleared => ((cleared.allowKey true).advance 1).emit .item

/-- Read the question mark in front of a key. -/
def explicitKey (progress : Progress) : Except Fault Progress :=
  if progress.depth = 0 && !progress.keyAllowed then
    .error .malformed
  else
    let opened :=
      if progress.depth = 0 then progress.openBlock .blockMapping else progress
    opened.abandonKey.map fun cleared =>
      ((cleared.allowKey (progress.depth = 0)).advance 1).emit .key

/-- Read the colon in front of a value. If a key may have begun before it, the token of
the key is put there, and a block mapping opens if the key lies deep enough. -/
def value (progress : Progress) : Except Fault Progress :=
  match progress.keyPlace? with
  | some place =>
      let keyed := progress.forgetKey.insertAt place.slot .key
      let column := place.cursor.column
      let opened :=
        if progress.depth = 0 && progress.isDeeper column then
          { keyed with columns := column :: keyed.columns }.insertAt place.slot
            .blockMapping
        else
          keyed
      .ok (((opened.allowKey false).advance 1).emit .value)
  | none =>
      if progress.depth = 0 && !progress.keyAllowed then
        .error .malformed
      else
        let opened :=
          if progress.depth = 0 then progress.openBlock .blockMapping else progress
        .ok (((opened.allowKey (progress.depth = 0)).advance 1).emit .value)

/-- Add the token of a scalar that was read. -/
def scalar
    (progress : Progress)
    (token : List α -> Token)
    (read : ReadScalar α) : Progress :=
  ({ progress with cursor := read.cursor }.allowKey read.broke).emit (token read.content)

/-- Read a quoted scalar. -/
def quoted (progress : Progress) (isDouble : Bool) : Except Fault Progress := do
  let marked ← progress.rememberKey
  let read ← readQuoted isDouble progress.cursor.rest.length [] progress.cursor.next
  return marked.scalar .quoted read

/-- Read a plain scalar. -/
def plain (progress : Progress) : Except Fault Progress :=
  progress.rememberKey.map fun marked =>
    marked.scalar .plain (readPlain (progress.depth ≠ 0) progress.columns.head?
      progress.cursor.rest.length [] ⟨[], progress.cursor, false⟩)

/-- The characters with which no plain scalar begins. -/
def indicators : Text := "-?:,[]\x7b\x7d#&*!|>'\"%@\x60".toList

/-- Whether a plain scalar begins with a character that has another one after it. -/
def beginsPlain (inFlow : Bool) (char : Char) (next : Option Char) : Bool :=
  if indicators.contains char then
    !endsWord next && (char = '-' || (!inFlow && (char = '?' || char = ':')))
  else
    !endsWord (some char)

/-- Read the next token. -/
def read (progress : Progress) : Except Fault Progress :=
  match progress.cursor.rest with
  | [] => .error .malformed
  | char :: rest =>
      let inFlow : Bool := progress.depth ≠ 0
      let endsMark := endsWord rest.head?
      if progress.cursor.column = 0 && isSeparator (char :: rest) then
        progress.document (if char = '-' then .documentStart else .documentEnd)
      else if char = '[' then progress.flowStart .flowSequence
      else if char = '\x7b' then progress.flowStart .flowMapping
      else if char = ']' then progress.flowEnd .flowSequenceEnd
      else if char = '\x7d' then progress.flowEnd .flowMappingEnd
      else if char = ',' then progress.comma
      else if char = '-' && endsMark then progress.item
      else if char = '?' && (inFlow || endsMark) then progress.explicitKey
      else if char = ':' && (inFlow || endsMark) then progress.value
      else if char = '\'' then progress.quoted false
      else if char = '"' then progress.quoted true
      else if beginsPlain inFlow char rest.head? then progress.plain
      else .error .malformed

/-- Read the next token, or close what is open at the end of the text. Which of them
happened is also told. -/
def step (progress : Progress) : Except Fault (Progress × Bool) := do
  let settled ← progress.skipBlanks.dropStale
  if settled.cursor.rest.isEmpty then
    return (← (settled.closeBlocks fun _ => true).abandonKey, true)
  else
    return (← (settled.closeBlocks fun column =>
      settled.cursor.column < column).read, false)

/-- The tokens, in order, up to a fault. Those after the first place of a possible key
were waiting for a colon. -/
def breakOff (progress : Progress) (fault : Fault) : List Token :=
  let ready := (progress.keyPlaces.map (·.slot)).foldl min progress.tokens.length
  progress.tokens.reverse.take ready ++ [.broken fault]

/-- Read the rest of a text. Every token takes a character at least, so that the length of
the text bounds their number. -/
def readAll : Nat -> Progress -> List Token
  | 0, progress => progress.breakOff .malformed
  | fuel + 1, progress =>
      match progress.dropStale with
      | .error fault => progress.breakOff fault
      | .ok current =>
          match current.step with
          | .error fault => current.breakOff fault
          | .ok (finished, true) => finished.tokens.reverse
          | .ok (next, false) => readAll fuel next

end Progress

/-- The tokens of a text. -/
def tokens (text : Text) : List Token :=
  (Progress.start text).readAll (text.length + 1)

end Yaml
end WildcardDiff
