import WildcardDiff.Template.Basic

/-!
# Sources of templates

The source of a template marks its gaps by double braces, and its loops and choices by
tags between a brace and a percent sign. Rules say which blanks and line feeds around a
tag count. An engine makes the text of a template out of its source; what it does with
the sources that are read here is documented, and an engine that does just that is
given.
-/

namespace WildcardDiff
namespace Template

/-- The rules that an engine is set to. -/
structure Rules where
  /-- Whether the line feed right behind a tag is dropped. -/
  trimBlocks : Bool
  /-- Whether the blanks in front of a tag are dropped if the line begins with them. -/
  stripBlocks : Bool
  /-- Whether a line feed at the end of the source is kept. -/
  keepTrailingFeed : Bool
  /-- Whether a template fails at a name that is not defined. -/
  strictUndefined : Bool

/-! ## Tokens -/

/-- A part of a source: a character, or what stands in a gap or in a tag. -/
inductive Token
  | char (char : Char)
  | gap (content : Text)
  | tag (content : Text)
  deriving DecidableEq

/-- Where a scan has come to: outside, or in a gap or a tag with what stands in it so
far. -/
inductive Region
  | outside
  | gap (content : Text)
  | tag (content : Text)

/-- The tokens of a source. Comments and carriage returns are left to engines. -/
def scan : Region -> Text -> Option (List Token)
  | .outside, [] => some []
  | .outside, '\x7b' :: '\x7b' :: rest => scan (.gap []) rest
  | .outside, '\x7b' :: '%' :: rest => scan (.tag []) rest
  | .outside, '\x7b' :: '#' :: _ => none
  | .outside, '\r' :: _ => none
  | .outside, first :: rest => do
      let others ← scan .outside rest
      return .char first :: others
  | .gap content, '\x7d' :: '\x7d' :: rest => do
      let others ← scan .outside rest
      return .gap content :: others
  | .gap content, first :: rest => scan (.gap (content ++ [first])) rest
  | .tag content, '%' :: '\x7d' :: rest => do
      let others ← scan .outside rest
      return .tag content :: others
  | .tag content, first :: rest => scan (.tag (content ++ [first])) rest
  | _, [] => none

/-- Drop the blanks in front of tags that a line begins with. The blanks since the
beginning of the line are held back, if nothing else stands there. -/
def stripBlanks : Option Text -> List Token -> List Token
  | held, [] => (held.getD []).map .char
  | _, .tag content :: rest => .tag content :: stripBlanks none rest
  | held, .gap content :: rest =>
      (held.getD []).map .char ++ .gap content :: stripBlanks none rest
  | held, .char first :: rest =>
      if first = '\n' then
        (held.getD []).map .char ++ .char first :: stripBlanks (some []) rest
      else
        match held with
        | none => .char first :: stripBlanks none rest
        | some blanks =>
            if first = ' ' || first = '\t'
              then stripBlanks (some (blanks ++ [first])) rest
            else blanks.map .char ++ .char first :: stripBlanks none rest

/-- Drop the line feeds right behind tags. -/
def trimFeeds : List Token -> List Token
  | [] => []
  | .tag content :: .char '\n' :: rest => .tag content :: trimFeeds rest
  | token :: rest => token :: trimFeeds rest

/-- The tokens of a source under rules. -/
def tokens (rules : Rules) (source : Text) : Option (List Token) := do
  let endsInFeed := source.getLast? = some '\n'
  let kept := if !rules.keepTrailingFeed && endsInFeed then source.dropLast else source
  let scanned ← scan .outside kept
  let stripped := if rules.stripBlocks then stripBlanks (some []) scanned else scanned
  return if rules.trimBlocks then trimFeeds stripped else stripped

/-! ## References -/

/-- The words that have a meaning of their own for engines. -/
def reserved : List String :=
  ["and", "block", "call", "caller", "cycler", "dict", "do", "else", "extends", "false",
    "filter",
    "for", "from", "if", "import", "in", "include", "is", "joiner", "kwargs",
    "lipsum", "loop",
    "macro", "namespace", "none", "not", "or", "range", "recursive", "self", "set",
    "super", "true", "varargs", "with"]

/-- The name that a word is, if it is a simple one. -/
def name? (word : Text) : Option String :=
  let isSimple (char : Char) : Bool := char.isLower || char = '_'
  let name := String.ofList word
  if word ≠ [] && word.all isSimple && !reserved.contains name then some name else none

/-- The reference that a word is. -/
def Reference.ofWord? (word : Text) : Option Reference := do
  match ← (Text.splitAtChar '.' word).mapM name? with
  | [] => none
  | name :: fields => return ⟨name, fields⟩

/-- The words of a gap or tag. -/
def words (content : Text) : List Text :=
  (Text.splitAtChar ' ' content).filter (· ≠ [])

/-! ## Templates -/

/-- A loop or choice whose end was read but not its beginning, with the template behind
it. A choice has what is to be done otherwise, if that was read. -/
inductive Frame
  | loop (behind : Template)
  | choice
      (otherwise : Option Template)
      (behind : Template)

/-- What was read of a source from its end: the innermost template, and what it stands
in. -/
structure Unfinished where
  inner : Template
  frames : List Frame

/-- Put a gap in front of what was read. -/
def Unfinished.addGap (read : Unfinished) (content : Text) : Option Unfinished :=
  match words content with
  | [word] => do
      return { read with inner := .gap (← Reference.ofWord? word) none read.inner }
  | [word, ['|'], filter] => do
      let filled := Template.gap (← Reference.ofWord? word) (← name? filter) read.inner
      return { read with inner := filled }
  | _ => none

/-- Put a tag in front of what was read. -/
def Unfinished.addTag (read : Unfinished) (content : Text) : Option Unfinished :=
  match words content, read.frames with
  | [word], frames =>
      if word = "endfor".toList then some ⟨.nil, .loop read.inner :: frames⟩
      else if word = "endif".toList then some ⟨.nil, .choice none read.inner :: frames⟩
      else if word = "else".toList then
        match frames with
        | .choice none behind :: frames =>
            some ⟨.nil, .choice (some read.inner) behind :: frames⟩
        | _ => none
      else none
  | [word, condition], .choice otherwise behind :: frames => do
      let condition ← Reference.ofWord? condition
      if word = "if".toList then
        return ⟨.choice condition read.inner (otherwise.getD .nil) behind, frames⟩
      else if word = "elif".toList then
        let choice := Template.choice condition read.inner (otherwise.getD .nil) .nil
        return ⟨.nil, .choice (some choice) behind :: frames⟩
      else none
  | [first, item, second, items], .loop behind :: frames => do
      let name ← name? item
      let items ← Reference.ofWord? items
      if first = "for".toList ∧ second = "in".toList then
        return ⟨.loop name items read.inner behind, frames⟩
      else none
  | _, _ => none

/-- Read tokens, from the last to the first. -/
def Unfinished.ofTokens : List Token -> Option Unfinished
  | [] => some ⟨.nil, []⟩
  | token :: rest => do
      let read ← ofTokens rest
      match token with
      | .char first => return { read with inner := .char first read.inner }
      | .gap content => read.addGap content
      | .tag content => read.addTag content

/-- The template of a source, if the source has nothing in it but gaps that show items,
loops through lists, and choices. -/
def read (rules : Rules) (source : Text) : Option Template := do
  match ← Unfinished.ofTokens (← tokens rules source) with
  | ⟨template, []⟩ => return template
  | _ => none

/-! ## Engines -/

/-- Why an engine makes no text: an error in the template, or a filter that fails. -/
inductive EngineError
  | template (message : Text)
  | filter (error : FilterError)

/-- An engine of templates. It makes a text of a source in a scope. -/
abbrev Engine := Rules -> Filters -> Text -> Scope -> Except EngineError Points

/-- What is documented of engines. -/
structure Engine.Documented (engine : Engine) : Prop where
  /-- A template that is rendered comes to its text. -/
  renders : ∀ {rules filters source template scope text},
    read rules source = some template → template.render filters scope = .ok text →
      engine rules filters source scope = .ok text
  /-- The failure of a filter is passed on. -/
  passes : ∀ {rules filters source template scope error},
    read rules source = some template →
      template.render filters scope = .error (.filter error) →
      engine rules filters source scope = .error (.filter error)
  /-- Under strict rules a name that is not defined is an error in the template. -/
  refuses : ∀ {rules filters source template scope name},
    rules.strictUndefined = true → read rules source = some template →
      template.render filters scope = .error (.undefined name) →
      ∃ message, engine rules filters source scope = .error (.template message)

/-- The engine that renders what is read here, and nothing else. -/
def engine : Engine := fun rules filters source scope =>
  match read rules source with
  | none => .error (.template "unknown syntax".toList)
  | some template =>
      match template.render filters scope with
      | .ok text => .ok text
      | .error (.filter error) => .error (.filter error)
      | .error (.undefined name) =>
          .error (.template (Quoted.encode name.toList ++ " is undefined".toList))
      | .error .unsettled => .error (.template "unknown use".toList)

theorem documented_engine : engine.Documented where
  renders reads renders := by simp only [engine, reads, renders]
  passes reads fails := by simp only [engine, reads, fails]
  refuses _ reads fails := by simp only [engine, reads, fails, Except.error.injEq,
    EngineError.template.injEq, exists_eq']

end Template
end WildcardDiff
