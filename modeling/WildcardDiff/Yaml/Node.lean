import WildcardDiff.Yaml.Token

/-!
# Nodes

The tree that the tokens of a YAML text describe: scalars, sequences and mappings. Where a
value is left out, an empty plain scalar stands.
-/

namespace WildcardDiff
namespace Yaml

/-- A part of a YAML document. -/
inductive Node
  | plain (content : Text)
  | quoted (content : List CodePoint)
  | sequence (items : List Node)
  | mapping (entries : List (Node × Node))

namespace Node

/-- The node that stands where a value is left out. -/
def empty : Node := .plain []

/-- What was read from tokens, and the tokens that follow. -/
abbrev Followed (α : Type) := α × List Token

/-- The fault of tokens that do not go on as they should: the one at which the text breaks
off, if it does so here. -/
def unexpected (tokens : List Token) : Fault :=
  match tokens with
  | .broken fault :: _ => fault
  | _ => .malformed

/-- Put an item in front of those that were read after it. -/
def prepend (item : α) (reading : Except Fault (Followed (List α))) :
    Except Fault (Followed (List α)) :=
  reading.map fun (items, rest) => (item :: items, rest)

/-- Make a node of what was read before the tokens that follow. -/
def wrap (build : α -> Node) (reading : Except Fault (Followed α)) :
    Except Fault (Followed Node) :=
  reading.map fun (found, rest) => (build found, rest)

mutual

/-- Read a node. A sequence of items may stand without a token that opens it where the
value of a block mapping is read. -/
def read (isBlock isValue : Bool) : Nat -> List Token -> Except Fault (Followed Node)
  | 0, _ => .error .malformed
  | fuel + 1, tokens =>
      match tokens with
      | .plain content :: rest => .ok (.plain content, rest)
      | .quoted content :: rest => .ok (.quoted content, rest)
      | .flowSequence :: rest => wrap .sequence (flowItems true fuel rest)
      | .flowMapping :: rest => wrap .mapping (flowEntries true fuel rest)
      | .item :: _ =>
          if isValue then wrap .sequence (openItems fuel tokens) else .error .malformed
      | .blockSequence :: rest =>
          if isBlock then wrap .sequence (blockItems fuel rest) else .error .malformed
      | .blockMapping :: rest =>
          if isBlock then wrap .mapping (blockEntries fuel rest) else .error .malformed
      | _ => .error (unexpected tokens)

/-- Read a node, or the empty one in front of one of the given tokens. -/
def readUnless (stops : List Token) (isBlock isValue : Bool) :
    Nat -> List Token -> Except Fault (Followed Node)
  | 0, _ => .error .malformed
  | fuel + 1, tokens =>
      if tokens.head?.any stops.contains then .ok (.empty, tokens)
      else read isBlock isValue fuel tokens

/-- Read the items of a block sequence. -/
def blockItems : Nat -> List Token -> Except Fault (Followed (List Node))
  | 0, _ => .error .malformed
  | fuel + 1, tokens =>
      match tokens with
      | .item :: rest => do
          let (item, rest) ← readUnless [.item, .blockEnd] true false fuel rest
          prepend item (blockItems fuel rest)
      | .blockEnd :: rest => .ok ([], rest)
      | _ => .error (unexpected tokens)

/-- Read the items of a sequence that no token opens or closes. -/
def openItems : Nat -> List Token -> Except Fault (Followed (List Node))
  | 0, _ => .error .malformed
  | fuel + 1, tokens =>
      match tokens with
      | .item :: rest => do
          let (item, rest) ←
            readUnless [.item, .key, .value, .blockEnd] true false fuel rest
          prepend item (openItems fuel rest)
      | _ => .ok ([], tokens)

/-- Read the entries of a block mapping. -/
def blockEntries : Nat -> List Token -> Except Fault (Followed (List (Node × Node)))
  | 0, _ => .error .malformed
  | fuel + 1, tokens =>
      match tokens with
      | .key :: rest => do
          let (key, rest) ← readUnless [.key, .value, .blockEnd] true true fuel rest
          let (value, rest) ← blockValue fuel rest
          prepend (key, value) (blockEntries fuel rest)
      | .blockEnd :: rest => .ok ([], rest)
      | _ => .error (unexpected tokens)

/-- Read the value of an entry of a block mapping. -/
def blockValue : Nat -> List Token -> Except Fault (Followed Node)
  | 0, _ => .error .malformed
  | fuel + 1, tokens =>
      match tokens with
      | .value :: rest => readUnless [.key, .value, .blockEnd] true true fuel rest
      | _ => .ok (.empty, tokens)

/-- Read the items of a sequence in brackets. A pair of a key and a value among them is a
mapping of its own. -/
def flowItems (isFirst : Bool) : Nat -> List Token -> Except Fault (Followed (List Node))
  | 0, _ => .error .malformed
  | fuel + 1, tokens =>
      match isFirst, tokens with
      | _, .flowSequenceEnd :: rest => .ok ([], rest)
      | false, .comma :: rest => flowItem fuel rest
      | true, _ => flowItem fuel tokens
      | false, _ => .error (unexpected tokens)

/-- Read an item of a sequence in brackets, and those after it. -/
def flowItem : Nat -> List Token -> Except Fault (Followed (List Node))
  | 0, _ => .error .malformed
  | fuel + 1, tokens =>
      match tokens with
      | .flowSequenceEnd :: rest => .ok ([], rest)
      | .key :: rest => do
          let (key, rest) ←
            readUnless [.value, .comma, .flowSequenceEnd] false false fuel rest
          let (value, rest) ← flowValue [.comma, .flowSequenceEnd] fuel rest
          prepend (.mapping [(key, value)]) (flowItems false fuel rest)
      | _ => do
          let (item, rest) ← read false false fuel tokens
          prepend item (flowItems false fuel rest)

/-- Read the entries of a mapping in braces. -/
def flowEntries (isFirst : Bool) :
    Nat -> List Token -> Except Fault (Followed (List (Node × Node)))
  | 0, _ => .error .malformed
  | fuel + 1, tokens =>
      match isFirst, tokens with
      | _, .flowMappingEnd :: rest => .ok ([], rest)
      | false, .comma :: rest => flowEntry fuel rest
      | true, _ => flowEntry fuel tokens
      | false, _ => .error (unexpected tokens)

/-- Read an entry of a mapping in braces, and those after it. A node that is no key has an
empty value. -/
def flowEntry : Nat -> List Token -> Except Fault (Followed (List (Node × Node)))
  | 0, _ => .error .malformed
  | fuel + 1, tokens =>
      match tokens with
      | .flowMappingEnd :: rest => .ok ([], rest)
      | .key :: rest => do
          let (key, rest) ←
            readUnless [.value, .comma, .flowMappingEnd] false false fuel rest
          let (value, rest) ← flowValue [.comma, .flowMappingEnd] fuel rest
          prepend (key, value) (flowEntries false fuel rest)
      | _ => do
          let (key, rest) ← read false false fuel tokens
          prepend (key, .empty) (flowEntries false fuel rest)

/-- Read the value after a key in brackets or braces. -/
def flowValue (stops : List Token) : Nat -> List Token -> Except Fault (Followed Node)
  | 0, _ => .error .malformed
  | fuel + 1, tokens =>
      match tokens with
      | .value :: rest => readUnless stops false false fuel rest
      | _ => .ok (.empty, tokens)

end

/-- Read the node of a document, which may be empty. -/
def ofDocument (tokens : List Token) : Except Fault (Followed Node) :=
  readUnless [.documentStart, .documentEnd] true false (4 * tokens.length + 4) tokens

/-- Read a document, whose start may be marked. -/
def ofMarked (tokens : List Token) : Except Fault (Followed Node) :=
  match tokens with
  | [.documentStart] => .ok (empty, [])
  | .documentStart :: content => ofDocument content
  | _ => read true false (4 * tokens.length + 4) tokens

/-- The node of the only document among the tokens, if there is one. A text without tokens
has none, and marks of its end may follow a document. -/
def ofTokens (tokens : List Token) : Except Fault (Option Node) := do
  if tokens = [] then
    return none
  else
    let (node, rest) ← ofMarked tokens
    let following := rest.dropWhile (· = .documentEnd)
    if following = [] then return some node else throw (unexpected following)

end Node
end Yaml
end WildcardDiff
