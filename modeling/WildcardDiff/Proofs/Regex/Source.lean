import WildcardDiff.Regex.Reading
import WildcardDiff.Proofs.Pattern.Construct

/-!
# Sources of constructs

The source of a regular expression is written construct by construct, and it reads back
construct by construct: each construct becomes one piece. This needs that a character
which means something in a source is written with a backslash, that no construct begins
with the mark of repetition, and that every set has a choice and every range runs
upwards.
-/

namespace WildcardDiff

namespace Choice

/-- The source of a choice. -/
def source : Choice -> Text
  | .one char => Regex.quote char
  | .range low high => Regex.quote low ++ '-' :: Regex.quote high

/-- What a set of a regular expression lists for a choice. -/
def item : Choice -> Regex.Item
  | .one char => .one char
  | .range low high => .range low high

end Choice

namespace Construct

/-- The source of a construct. -/
def source (capturing : Bool) (construct : Construct) : Text :=
  construct.events.flatMap (Event.regex capturing)

@[simp] theorem source_literal (capturing : Bool) (char : Char) :
    (Construct.literal char).source capturing = Regex.quote char := by
  simp [source, events, Event.regex]

@[simp] theorem source_star (capturing : Bool) :
    Construct.star.source capturing =
      if capturing then ['(', '.', '*', '?', ')'] else ['.', '*'] := by
  simp [source, events, Event.regex]

@[simp] theorem source_question (capturing : Bool) :
    Construct.question.source capturing = if capturing then ['(', '.', ')']
      else ['.'] := by
  simp [source, events, Event.regex]

theorem source_set (capturing : Bool) (choices : List Choice) :
    (Construct.set choices).source capturing =
      (if capturing then "([".toList else "[".toList) ++ choices.flatMap Choice.source ++
        (if capturing then "])".toList else "]".toList) := by
  have each : ∀ choice : Choice, choice.event.regex capturing = choice.source := by
    intro choice
    cases choice with
    | one char => rfl
    | range low high => simp [Choice.event, Event.regex, Choice.source]
  simp only [source, events, List.cons_append, List.flatMap_cons, List.flatMap_append,
    List.flatMap_map, List.flatMap_nil, List.append_nil, List.append_assoc, each]
  rfl

/-- The piece of a regular expression that a construct becomes. -/
def piece (capturing : Bool) : Construct -> Regex.Piece
  | .literal char => ⟨.one (.single char), false⟩
  | .star => ⟨.run capturing, capturing⟩
  | .question => ⟨.one .any, capturing⟩
  | .set choices => ⟨.one (.set (choices.map Choice.item)), capturing⟩

end Construct

namespace Regex

/-- The token that a character standing for itself is written as. -/
def Token.ofChar (char : Char) : Token :=
  if isSpecial char then .quoted char else .plain char

theorem tokens?_plain {char : Char} (ordinary : char ≠ '\\') (rest : Text) :
    tokens? (char :: rest) = (tokens? rest).map (.plain char :: ·) := by
  rw [tokens?]
  · intro equal
    exact absurd equal ordinary
  · intro next others equal
    exact absurd equal ordinary

theorem tokens?_plains {chars : Text} (ordinary : '\\' ∉ chars) (rest : Text) :
    tokens? (chars ++ rest) = (tokens? rest).map (chars.map .plain ++ ·) := by
  induction chars with
  | nil => simp
  | cons char chars inductionHypothesis =>
      simp only [List.mem_cons, not_or] at ordinary
      rw [List.cons_append, tokens?_plain (Ne.symm ordinary.1),
        inductionHypothesis ordinary.2, Option.map_map]
      rfl

theorem tokens?_quote (char : Char) (rest : Text) :
    tokens? (quote char ++ rest) = (tokens? rest).map (.ofChar char :: ·) := by
  unfold quote Token.ofChar
  by_cases special : isSpecial char = true
  · simp [special, tokens?]
  · have ordinary : char ≠ '\\' := by
      rintro rfl
      exact special (by decide)
    simpa [special] using tokens?_plain ordinary rest

theorem not_isAlphanum_of_isSpecial {char : Char} (special : isSpecial char = true) :
    char.isAlphanum = false := by
  have all : specials.all (fun other => !other.isAlphanum) = true := by decide
  have listed : char ∈ specials := by simpa [isSpecial] using special
  simpa using List.all_eq_true.mp all char listed

@[simp] theorem char?_ofChar (char : Char) : (Token.ofChar char).char? = some char := by
  unfold Token.ofChar
  by_cases special : isSpecial char = true
  · simp [special, Token.char?, not_isAlphanum_of_isSpecial special]
  · simp [special, Token.char?]

/-- A character that means something in a source never stands for itself unquoted. -/
theorem ofChar_ne_plain {mark : Char} (special : isSpecial mark = true) (char : Char) :
    Token.ofChar char ≠ .plain mark := by
  unfold Token.ofChar
  split
  · simp
  · rename_i ordinary
    intro equal
    rw [Token.plain.inj equal] at ordinary
    exact ordinary special

theorem ofChar_ne_quoted
    {letter : Char}
    (ordinary : isSpecial letter = false)
    (char : Char) :
    Token.ofChar char ≠ .quoted letter := by
  unfold Token.ofChar
  split
  · rename_i special
    intro equal
    rw [Token.quoted.inj equal, ordinary] at special
    cases special
  · simp

end Regex

/-- The tokens of a choice. -/
def Choice.tokens : Choice -> List Regex.Token
  | .one char => [.ofChar char]
  | .range low high => [.ofChar low, .plain '-', .ofChar high]

/-- The tokens of a construct. -/
def Construct.tokens (capturing : Bool) : Construct -> List Regex.Token
  | .literal char => [.ofChar char]
  | .star =>
      if capturing then [.plain '(', .plain '.', .plain '*', .plain '?', .plain ')']
      else [.plain '.', .plain '*']
  | .question => if capturing then [.plain '(', .plain '.', .plain ')'] else [.plain '.']
  | .set choices =>
      if capturing then
        .plain '(' :: .plain '[' :: choices.flatMap Choice.tokens ++
          [.plain ']', .plain ')']
      else .plain '[' :: choices.flatMap Choice.tokens ++ [.plain ']']

namespace Regex

theorem tokens?_choices (choices : List Choice) (rest : Text) :
    tokens? (choices.flatMap Choice.source ++ rest) =
      (tokens? rest).map (choices.flatMap Choice.tokens ++ ·) := by
  induction choices with
  | nil => simp
  | cons choice choices inductionHypothesis =>
      rw [List.flatMap_cons, List.append_assoc]
      cases choice with
      | one char =>
          rw [Choice.source, tokens?_quote, inductionHypothesis, Option.map_map]
          rfl
      | range low high =>
          rw [Choice.source, List.append_assoc, tokens?_quote, List.cons_append,
            tokens?_plain (by decide), tokens?_quote, inductionHypothesis]
          simp only [Option.map_map]
          rfl

/-- A construct is written as its tokens. -/
theorem tokens?_construct (capturing : Bool) (construct : Construct) (rest : Text) :
    tokens? (construct.source capturing ++ rest) =
      (tokens? rest).map (construct.tokens capturing ++ ·) := by
  cases construct with
  | literal char => simp [tokens?_quote, Construct.tokens]
  | star =>
      rw [Construct.source_star, Construct.tokens]
      cases capturing with
      | false => exact tokens?_plains (by decide) rest
      | true => exact tokens?_plains (by decide) rest
  | question =>
      rw [Construct.source_question, Construct.tokens]
      cases capturing with
      | false => exact tokens?_plains (by decide) rest
      | true => exact tokens?_plains (by decide) rest
  | set choices =>
      rw [Construct.source_set, Construct.tokens, List.append_assoc, List.append_assoc]
      cases capturing with
      | false =>
          simp only [Bool.false_eq_true, if_false]
          rw [tokens?_plains (by decide), tokens?_choices, tokens?_plains (by decide)]
          simp only [Option.map_map]
          congr 1
          funext tokens
          simp
      | true =>
          simp only [if_true]
          rw [tokens?_plains (by decide), tokens?_choices, tokens?_plains (by decide)]
          simp only [Option.map_map]
          congr 1
          funext tokens
          simp

/-! ## Reading -/

theorem readTokens_ofChar (char : Char) (rest : List Token) :
    readTokens .atPiece (.ofChar char :: rest) =
      andThen (.one (.single char)) false (readTokens .atPiece rest) := by
  have special : ∀ {mark : Char},
      isSpecial mark = true -> Token.ofChar char ≠ .plain mark :=
    fun special => ofChar_ne_plain special char
  rw [readTokens]
  · rw [char?_ofChar]
  · exact special (by decide)
  · exact ofChar_ne_quoted (by decide) char
  · exact fun _ equal _ => special (by decide) equal
  · exact fun _ equal _ => special (by decide) equal
  · exact fun _ equal _ => special (by decide) equal
  · exact fun _ equal _ => special (by decide) equal
  · exact special (by decide)
  · exact special (by decide)

/-- Within a set, no choice and no end of the set begins with the mark of a range. -/
theorem choices_tokens_ne_dash (choices : List Choice) (rest others : List Token) :
    choices.flatMap Choice.tokens ++ .plain ']' :: rest ≠ .plain '-' :: others := by
  cases choices with
  | nil => simp
  | cons choice choices =>
      intro equal
      have head : ∃ char, some (Token.ofChar char) = some (.plain '-') := by
        cases choice with
        | one char => exact ⟨char, congrArg List.head? equal⟩
        | range low high => exact ⟨low, congrArg List.head? equal⟩
      obtain ⟨char, head⟩ := head
      exact ofChar_ne_plain (by decide) char (Option.some.inj head)

section

variable {captured : Bool} {items : List Item} {rest : List Token}

theorem readTokens_inSet_one
    (char : Char)
    (single : ∀ others, rest ≠ .plain '-' :: others) :
    readTokens (.inSet captured items) (.ofChar char :: rest) =
      readTokens (.inSet captured (items ++ [.one char])) rest := by
  have closing : Token.ofChar char ≠ .plain ']' := ofChar_ne_plain (by decide) char
  rw [readTokens]
  · rw [char?_ofChar]
  · exact fun _ _ equal _ => closing equal
  · exact closing
  · exact fun high others equal => single (high :: others) equal

theorem readTokens_inSet_range {low high : Char} (upward : low ≤ high) :
    readTokens (.inSet captured items)
      (.ofChar low :: .plain '-' :: .ofChar high :: rest) =
      readTokens (.inSet captured (items ++ [.range low high])) rest := by
  rw [readTokens]
  · simp only [char?_ofChar, Char.not_lt.mpr upward, if_false]
  · exact ofChar_ne_plain (by decide) low

theorem readTokens_choices
    {choices : List Choice}
    (ordered : choices.all Choice.isOrdered = true) :
    readTokens (.inSet captured items)
      (choices.flatMap Choice.tokens ++ .plain ']' :: rest) =
      readTokens (.inSet captured (items ++ choices.map Choice.item))
        (.plain ']' :: rest) := by
  induction choices generalizing items with
  | nil => simp
  | cons choice choices inductionHypothesis =>
      rw [List.all_cons, Bool.and_eq_true] at ordered
      obtain ⟨upward, others⟩ := ordered
      rw [List.flatMap_cons, List.append_assoc]
      cases choice with
      | one char =>
          rw [Choice.tokens, List.singleton_append,
            readTokens_inSet_one char (choices_tokens_ne_dash choices rest),
            inductionHypothesis others]
          simp [Choice.item]
      | range low high =>
          simp only [Choice.tokens, List.cons_append, List.nil_append]
          rw [readTokens_inSet_range (by simpa [Choice.isOrdered] using upward),
            inductionHypothesis others]
          simp [Choice.item]

/-- A construct is read as its piece, unless it is followed by the mark of repetition. -/
theorem readTokens_construct
    (capturing : Bool)
    {construct : Construct}
    (wellFormed : construct.WellFormed)
    (single : ∀ others, rest ≠ .plain '*' :: others) :
    readTokens .atPiece (construct.tokens capturing ++ rest) =
      (readTokens .atPiece rest).map (construct.piece capturing :: ·) := by
  obtain ⟨inhabited, ordered⟩ := wellFormed
  cases construct with
  | literal char => exact readTokens_ofChar char rest
  | star =>
      cases capturing with
      | false => simp [Construct.tokens, Construct.piece, readTokens, andThen]
      | true => simp [Construct.tokens, Construct.piece, readTokens, andThen]
  | question =>
      cases capturing with
      | false =>
          change readTokens .atPiece (.plain '.' :: rest) = _
          rw [readTokens]
          · rfl
          · exact fun others equal => single others equal
      | true => simp [Construct.tokens, Construct.piece, readTokens, andThen]
  | set choices =>
      have listed : choices.map Choice.item ≠ [] := by simpa using inhabited
      cases capturing with
      | false =>
          simp only [Construct.tokens, Bool.false_eq_true, if_false, List.cons_append,
            List.append_assoc, List.nil_append]
          rw [readTokens, readTokens_choices ordered, readTokens]
          · simp [listed, Construct.piece, andThen]
          · simp
      | true =>
          simp only [Construct.tokens, if_true, List.cons_append,
            List.append_assoc, List.nil_append]
          rw [readTokens, readTokens_choices ordered, readTokens]
          simp [listed, Construct.piece, andThen]

end

/-- No construct begins with the mark of repetition. -/
theorem construct_tokens_ne_repetition
    (capturing : Bool)
    (construct : Construct)
    (rest others : List Token) :
    construct.tokens capturing ++ rest ≠ .plain '*' :: others := by
  cases construct with
  | literal char =>
      intro equal
      exact ofChar_ne_plain (by decide) char (List.cons.inj equal).1
  | star => cases capturing <;> simp [Construct.tokens]
  | question => cases capturing <;> simp [Construct.tokens]
  | set choices => cases capturing <;> simp [Construct.tokens]

/-- Well-formed constructs are read as their pieces. -/
theorem readTokens_constructs
    (capturing : Bool)
    {constructs : List Construct}
    (wellFormed : ∀ construct ∈ constructs, construct.WellFormed)
    {rest : List Token}
    (single : ∀ others, rest ≠ .plain '*' :: others) :
    readTokens .atPiece (constructs.flatMap (Construct.tokens capturing) ++ rest) =
      (readTokens .atPiece rest).map
        (constructs.map (Construct.piece capturing) ++ ·) := by
  induction constructs with
  | nil => simp
  | cons construct constructs inductionHypothesis =>
      rw [List.forall_mem_cons] at wellFormed
      rw [List.flatMap_cons, List.append_assoc,
        readTokens_construct capturing wellFormed.1,
        inductionHypothesis wellFormed.2, Option.map_map]
      · rfl
      · intro others
        cases constructs with
        | nil => exact single others
        | cons next constructs =>
            rw [List.flatMap_cons, List.append_assoc]
            exact construct_tokens_ne_repetition capturing next _ others

/-- Constructs are written as their tokens, one construct after the other. -/
theorem tokens?_constructs
    (capturing : Bool)
    (constructs : List Construct)
    (rest : Text) :
    tokens? (constructs.flatMap (Construct.source capturing) ++ rest) =
      (tokens? rest).map (constructs.flatMap (Construct.tokens capturing) ++ ·) := by
  induction constructs with
  | nil => simp
  | cons construct constructs inductionHypothesis =>
      rw [List.flatMap_cons, List.append_assoc, tokens?_construct, inductionHypothesis,
        Option.map_map]
      congr 1
      funext tokens
      simp

/-! ## Anchored sources -/

/-- A row of constructs, with an anchor at the beginning and at the end or not. -/
structure Frame where
  start : Bool
  constructs : List Construct
  finish : Bool
  deriving DecidableEq

namespace Frame

/-- Constructs between both anchors. -/
def whole (constructs : List Construct) : Frame :=
  ⟨true, constructs, true⟩

/-- The source of a frame. -/
def source (capturing : Bool) (frame : Frame) : Text :=
  (if frame.start then ['^'] else []) ++
    (frame.constructs.flatMap (Construct.source capturing) ++
      if frame.finish then endAnchor else [])

/-- The pieces of a frame. -/
def pieces (capturing : Bool) (frame : Frame) : List Piece :=
  (if frame.start then [⟨.start, false⟩] else []) ++
    (frame.constructs.map (Construct.piece capturing) ++
      if frame.finish then [⟨.finish, false⟩] else [])

/-- Whether all constructs of a frame are well formed. -/
def WellFormed (frame : Frame) : Prop :=
  ∀ construct ∈ frame.constructs, construct.WellFormed

/-- The source of a well-formed frame is always a regular expression, and reads as the
pieces of the frame. -/
theorem ofSource?_source
    (capturing : Bool)
    {frame : Frame}
    (wellFormed : frame.WellFormed) :
    ofSource? (frame.source capturing) = some (frame.pieces capturing) := by
  have ending : ∃ tail : List Token,
      tokens? (if frame.finish then endAnchor else []) = some tail ∧
        (∀ others, tail ≠ .plain '*' :: others) ∧
        readTokens .atPiece tail =
          some (if frame.finish then [⟨.finish, false⟩] else []) := by
    cases frame.finish with
    | false => exact ⟨[], by simp [tokens?, readTokens]⟩
    | true => exact ⟨[.quoted 'Z'], by simp [tokens?, endAnchor, readTokens, andThen]⟩
  obtain ⟨tail, written, single, read⟩ := ending
  have body :
      (tokens? (frame.constructs.flatMap (Construct.source capturing) ++
        if frame.finish then endAnchor else [])).bind (readTokens .atPiece) =
      some (frame.constructs.map (Construct.piece capturing) ++
        if frame.finish then [⟨.finish, false⟩] else []) := by
    rw [tokens?_constructs, written]
    simp only [Option.map_some, Option.bind_some]
    rw [readTokens_constructs capturing wellFormed single, read, Option.map_some]
  unfold ofSource? source pieces
  cases frame.start with
  | false => exact body
  | true =>
      obtain ⟨tokens, split, inner⟩ := Option.bind_eq_some_iff.mp body
      simp only [if_true, List.cons_append, List.nil_append]
      rw [tokens?_plain (by decide), split, Option.map_some, Option.bind_some,
        readTokens, inner]
      rfl

end Frame
end Regex
end WildcardDiff
