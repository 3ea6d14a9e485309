import WildcardDiff.Proofs.Pattern.Construct

/-!
# Reading in two phases

The reading of a pattern by rules. First the text is cut into glyphs: a character with the
escape before it, or a character alone. Then the glyphs are grouped into constructs, where
the members of a set reach up to its closing bracket. A pattern is refused if a set is not
closed or a range runs downwards. For every escape character without a meaning of its own,
the reading in one pass gives the events of the reading by rules.
-/

namespace WildcardDiff

/-- A character of a pattern, and whether an escape stands before it. -/
structure Glyph where
  char : Char
  isQuoted : Bool
  deriving DecidableEq

namespace Glyph

/-- A character without an escape before it. -/
def plain (char : Char) : Glyph := ⟨char, false⟩

theorem plain_inj {char other : Char} : plain char = plain other ↔ char = other := by
  simp [plain]

/-- The glyphs of a text. An escape that nothing follows is a glyph of its own. -/
def ofText (escape : Option Char) : Text -> List Glyph
  | [] => []
  | [char] => [plain char]
  | char :: next :: rest =>
      if escape = some char then ⟨next, true⟩ :: ofText escape rest
      else plain char :: ofText escape (next :: rest)

/-- A glyph as a member of a set. -/
def member (glyph : Glyph) : Member :=
  ⟨glyph.char, glyph = plain '-'⟩

/-- Whether a glyph closes a set. -/
def closes (glyph : Glyph) : Bool :=
  glyph = plain ']'

/-- The members of a set and the glyphs after its closing bracket, from the glyphs after
its opening bracket, the first of which is a member in any case. -/
def set? : List Glyph -> Option (List Glyph × List Glyph)
  | [] => none
  | first :: rest =>
      match rest.dropWhile (!·.closes) with
      | [] => none
      | _ :: following => some (first :: rest.takeWhile (!·.closes), following)

theorem length_set?_lt
    {glyphs members following : List Glyph}
    (found : set? glyphs = some (members, following)) :
    following.length < glyphs.length := by
  cases glyphs with
  | nil => cases found
  | cons first rest =>
      have suffix := (List.dropWhile_suffix (!·.closes) (l := rest)).length_le
      simp only [set?] at found
      split at found
      · cases found
      · rename_i dropped
        simp only [Option.some.injEq, Prod.mk.injEq] at found
        obtain ⟨-, rfl⟩ := found
        rw [dropped] at suffix
        simp only [List.length_cons] at suffix ⊢
        omega

/-- The constructs of glyphs, unless a set is not closed. -/
def constructs? : List Glyph -> Option (List Construct)
  | [] => some []
  | glyph :: rest =>
      if glyph = plain '*' then (constructs? rest).map (.star :: ·)
      else if glyph = plain '?' then (constructs? rest).map (.question :: ·)
      else if glyph = plain '[' then
        match _found : set? rest with
        | some (members, following) =>
            (constructs? following).map (.set (Member.choices (members.map member)) :: ·)
        | none => none
      else (constructs? rest).map (.literal glyph.char :: ·)
termination_by glyphs => glyphs.length
decreasing_by
  · exact Nat.lt_succ_self _
  · exact Nat.lt_succ_self _
  · exact Nat.lt_succ_of_lt (length_set?_lt _found)
  · exact Nat.lt_succ_self _

/-- The events of glyphs, unless a set is not closed or a range runs downwards. -/
def events? (glyphs : List Glyph) : Option (List Event) :=
  (constructs? glyphs).bind Construct.eventsOf?

/-- The reading in one pass, from a scope on, of a text that was cut into glyphs. -/
def scan : Scope -> List Glyph -> Reading
  | .outside, [] => ⟨[], .complete⟩
  | .inside _ _, [] => ⟨[], .failed⟩
  | .outside, glyph :: rest =>
      if glyph = plain '*' then (scan .outside rest).cons .star
      else if glyph = plain '?' then (scan .outside rest).cons .question
      else if glyph = plain '[' then scan (.inside true []) rest
      else (scan .outside rest).cons (.literal glyph.char)
  | .inside justOpened members, glyph :: rest =>
      if glyph.closes ∧ justOpened = false then (scan .outside rest).set members
      else scan (.inside false (members ++ [glyph.member])) rest

/-- In a set, the reading goes on to the first closing bracket. -/
theorem scan_inside (members : List Member) (glyphs : List Glyph) :
    scan (.inside false members) glyphs =
      match glyphs.dropWhile (!·.closes) with
      | [] => ⟨[], .failed⟩
      | _ :: following =>
          (scan .outside following).set
            (members ++ (glyphs.takeWhile (!·.closes)).map member) := by
  induction glyphs generalizing members with
  | nil => simp [scan]
  | cons glyph rest inductionHypothesis =>
      by_cases closed : glyph.closes = true
      · simp [scan, closed]
      · simp [scan, closed, inductionHypothesis]

/-- After its opening bracket, a set is read as its members are found. -/
theorem scan_opened (glyphs : List Glyph) :
    scan (.inside true []) glyphs =
      match set? glyphs with
      | none => ⟨[], .failed⟩
      | some (members, following) =>
          (scan .outside following).set (members.map member) := by
  cases glyphs with
  | nil => rfl
  | cons first rest =>
      have next : scan (.inside true []) (first :: rest) =
          scan (.inside false [first.member]) rest := by
        simp [scan]
      rw [next, scan_inside, set?]
      cases rest.dropWhile (!·.closes) with
      | nil => rfl
      | cons _ following => simp

/-- The reading in one pass completes exactly if the reading by rules gives events, and
gives the same ones. -/
theorem completed?_scan (glyphs : List Glyph) :
    (scan .outside glyphs).completed? = events? glyphs := by
  unfold events?
  fun_induction constructs? glyphs with
  | case1 => rfl
  | case2 rest inductionHypothesis =>
      rw [Construct.bind_eventsOf?_cons, ← inductionHypothesis, scan, if_pos rfl,
        Reading.completed?_cons]
      rfl
  | case3 rest isStar inductionHypothesis =>
      rw [Construct.bind_eventsOf?_cons, ← inductionHypothesis, scan, if_neg isStar,
        if_pos rfl, Reading.completed?_cons]
      rfl
  | case4 rest members following found isStar isQuestion inductionHypothesis =>
      rw [Construct.bind_eventsOf?_cons, ← inductionHypothesis, scan, if_neg isStar,
        if_neg isQuestion, if_pos rfl, scan_opened, found]
      exact Reading.completed?_set _ _
  | case5 rest found isStar isQuestion =>
      rw [scan, if_neg isStar, if_neg isQuestion, if_pos rfl, scan_opened, found]
      rfl
  | case6 glyph rest isStar isQuestion opens inductionHypothesis =>
      rw [Construct.bind_eventsOf?_cons, ← inductionHypothesis, scan, if_neg isStar,
        if_neg isQuestion, if_neg opens, Reading.completed?_cons]
      rfl

end Glyph

namespace Reading

/-- A reading whose escape at the end, if it has one, has become a literal. -/
def finished (reading : Reading) : Reading :=
  match reading.ending with
  | .dangling char => ⟨reading.events ++ [.literal char], .complete⟩
  | _ => reading

theorem finished_cons (event : Event) (reading : Reading) :
    (reading.cons event).finished = reading.finished.cons event := by
  rcases reading with ⟨events, ending⟩
  cases ending <;> rfl

theorem finished_set (members : List Member) (following : Reading) :
    (Reading.set members following).finished =
      Reading.set members following.finished := by
  rw [set_eq, set_eq]
  rcases following with ⟨events, ending⟩
  split
  · cases ending <;> simp [finished]
  · rfl

/-- A finished reading is complete or has failed. -/
theorem completed?_finished_eq_none_iff (reading : Reading) :
    reading.finished.completed? = none ↔ reading.finished.ending = .failed := by
  rcases reading with ⟨events, ending⟩
  cases ending <;> simp [finished, completed?]

end Reading

section

variable {escape : Option Char}

/-- A character that is no escape is read as its glyph is. -/
theorem finished_scan_plain
    {char : Char}
    {rest : Text}
    (plain : escape ≠ some char)
    (agree : ∀ scope,
      (scan escape scope false rest).finished =
        Glyph.scan scope (Glyph.ofText escape rest))
    (scope : Scope) :
    (scan escape scope false (char :: rest)).finished =
      Glyph.scan scope (.plain char :: Glyph.ofText escape rest) := by
  cases scope with
  | outside =>
      rw [scan, Glyph.scan]
      simp only [Glyph.plain_inj, plain, decide_false, if_false, ← agree,
        ← Reading.finished_cons, apply_ite Reading.finished]
      rfl
  | inside justOpened members =>
      rw [scan, Glyph.scan]
      simp only [Glyph.closes, Glyph.member, Glyph.plain_inj, decide_eq_true_eq, plain,
        decide_false, if_false, ← agree, ← Reading.finished_set,
        apply_ite Reading.finished]
      rfl

/-- An escape and the character after it are read as their glyph is. -/
theorem finished_scan_quoted
    {char next : Char}
    {rest : Text}
    (neutral : isMeta char = false)
    (agree : ∀ scope, (scan (some char) scope false rest).finished =
      Glyph.scan scope (Glyph.ofText (some char) rest))
    (scope : Scope) :
    (scan (some char) scope false (char :: next :: rest)).finished =
      Glyph.scan scope (⟨next, true⟩ :: Glyph.ofText (some char) rest) := by
  simp only [isMeta, Bool.or_eq_false_iff, decide_eq_false_iff_not] at neutral
  cases scope with
  | outside => simp [scan, neutral, Glyph.scan, Glyph.plain, Reading.finished_cons, agree]
  | inside justOpened members =>
      simp [scan, neutral, Glyph.scan, Glyph.closes, Glyph.plain, Glyph.member, agree]

/-- An escape that nothing follows is read as its glyph is. -/
theorem finished_scan_dangling
    {char : Char}
    (neutral : isMeta char = false)
    (scope : Scope) :
    (scan (some char) scope false [char]).finished = Glyph.scan scope [.plain char] := by
  simp only [isMeta, Bool.or_eq_false_iff, decide_eq_false_iff_not] at neutral
  cases scope with
  | outside =>
      simp [scan, neutral, Glyph.scan, Glyph.plain, Reading.finished, Reading.cons]
  | inside justOpened members =>
      simp [scan, neutral, Glyph.scan, Glyph.closes, Glyph.plain, Reading.finished]

/-- The passes over a text and over its glyphs agree, but for an escape at the end. -/
theorem finished_scan
    (ordinary : ∀ char, escape = some char -> isMeta char = false)
    (scope : Scope)
    (text : Text) :
    (scan escape scope false text).finished =
      Glyph.scan scope (Glyph.ofText escape text) := by
  fun_induction Glyph.ofText escape text generalizing scope with
  | case1 => cases scope <;> simp [scan, Glyph.scan, Reading.finished]
  | case2 char =>
      by_cases escapes : escape = some char
      · subst escapes
        exact finished_scan_dangling (ordinary char rfl) scope
      · refine finished_scan_plain escapes (fun scope => ?_) scope
        cases scope <;> simp [scan, Glyph.scan, Glyph.ofText, Reading.finished]
  | case3 char next rest escapes inductionHypothesis =>
      subst escapes
      exact finished_scan_quoted (ordinary char rfl) inductionHypothesis scope
  | case4 char next rest plain inductionHypothesis =>
      exact finished_scan_plain plain inductionHypothesis scope

/-- Only the escape character is left unpaired at the end. -/
theorem eq_of_ending_scan_dangling
    {char : Char}
    {scope : Scope}
    {escaping : Bool}
    {text : Text}
    (dangling : (scan escape scope escaping text).ending = .dangling char) :
    escape = some char := by
  fun_induction scan escape scope escaping text with
  | case1 other escapes =>
      rw [escapes]
      exact congrArg some (Ending.dangling.inj dangling)
  | case2 => cases dangling
  | case3 => cases dangling
  | case4 char rest inductionHypothesis => exact inductionHypothesis dangling
  | case5 rest escapes inductionHypothesis => exact inductionHypothesis dangling
  | case6 rest escapes _ inductionHypothesis => exact inductionHypothesis dangling
  | case7 rest escapes _ _ inductionHypothesis => exact inductionHypothesis dangling
  | case8 other rest escapes _ _ _ _ inductionHypothesis =>
      exact inductionHypothesis dangling
  | case9 other rest escapes _ _ _ _ inductionHypothesis =>
      exact inductionHypothesis dangling
  | case10 justOpened members other rest inductionHypothesis =>
      exact inductionHypothesis dangling
  | case11 justOpened members other rest escapes _ inductionHypothesis =>
      rw [Reading.set_eq] at dangling
      split at dangling
      · exact inductionHypothesis dangling
      · cases dangling
  | case12 justOpened members other rest escapes _ _ inductionHypothesis =>
      exact inductionHypothesis dangling
  | case13 justOpened members other rest escapes _ _ inductionHypothesis =>
      exact inductionHypothesis dangling

/-- A text of nothing but the escape is the empty pattern. -/
theorem Reading.ofText_escape
    (ordinary : ∀ char, escape = some char -> isMeta char = false) :
    Reading.ofText escape escape.toList = ⟨[], .complete⟩ := by
  cases escape with
  | none => rfl
  | some char =>
      have neutral := ordinary char rfl
      simp only [isMeta, Bool.or_eq_false_iff, decide_eq_false_iff_not] at neutral
      simp [Reading.ofText, scan, neutral]

/-- In every other text, an escape at the end is a literal. -/
theorem Reading.ofText_eq_finished {text : Text} (other : text ≠ escape.toList) :
    Reading.ofText escape text = (scan escape .outside false text).finished := by
  unfold Reading.ofText Reading.finished
  cases ending : (scan escape .outside false text).ending with
  | dangling char =>
      have escapes := eq_of_ending_scan_dangling ending
      rw [escapes] at other
      simp only [ending]
      exact if_neg other
  | complete => simp only [ending]
  | failed => simp only [ending]

/-- A text other than the escape alone is read as its glyphs are. -/
theorem events?_of_ne
    (ordinary : ∀ char, escape = some char -> isMeta char = false)
    {text : Text}
    (other : text ≠ escape.toList) :
    events? escape text = Glyph.events? (Glyph.ofText escape text) := by
  have completed : events? escape text = (Reading.ofText escape text).completed? := rfl
  rw [completed, Reading.ofText_eq_finished other, finished_scan ordinary,
    Glyph.completed?_scan]

end

/-- For an escape character without a meaning of its own, a text is read in one pass as
it is read by rules, except that the escape alone is the empty pattern. Where the rules
refuse a text, its reading fails. -/
theorem events?_eq_events?_glyphs
    (escape : Option Char)
    (ordinary : ∀ char, escape = some char -> isMeta char = false)
    (text : Text) :
    events? escape text =
        (if text = escape.toList then some []
          else Glyph.events? (Glyph.ofText escape text)) ∧
      (events? escape text = none ↔ (Reading.ofText escape text).ending = .failed) := by
  have completed : events? escape text = (Reading.ofText escape text).completed? := rfl
  rw [completed]
  by_cases alone : text = escape.toList
  · rw [if_pos alone, alone, Reading.ofText_escape ordinary]
    simp [Reading.completed?]
  · rw [if_neg alone, Reading.ofText_eq_finished alone]
    refine ⟨?_, Reading.completed?_finished_eq_none_iff _⟩
    rw [finished_scan ordinary, Glyph.completed?_scan]

/-- A set that begins with a closing bracket and holds a quoted dash, and an escape at the
end. -/
theorem events?_glyphs_example :
    (∀ char, some '^' = some char -> isMeta char = false) ∧
      Glyph.events? (Glyph.ofText (some '^') "[]a-c^-z]*^".toList) =
        some [.setOpen, .setMember ']', .setRange 'a' 'c', .setMember '-', .setMember 'z',
          .setClose, .star, .literal '^'] := by
  have ordinary : ∀ char, some '^' = some char -> isMeta char = false := by
    rintro char ⟨rfl⟩
    rfl
  have read := (events?_eq_events?_glyphs (some '^') ordinary "[]a-c^-z]*^".toList).1
  rw [if_neg (by decide)] at read
  exact ⟨ordinary, read.symm.trans (by decide)⟩

end WildcardDiff
