import WildcardDiff.Text.Digit
import WildcardDiff.Text.Quoted
import WildcardDiff.Value.Basic

/-!
# Forms of command lines

A form names the options and operands that a list of arguments may hold. An argument
with a dash in front is an option if it is the name of one, or the beginning of one long
name alone. Single-letter options may stand behind one dash together, and a value may
stand behind its option's letter or an equals sign. Two dashes alone make operands of
all arguments that follow. Reading goes from left to right, and the first fault ends it.
-/

namespace WildcardDiff
namespace Command

/-- What becomes of two dashes that stand as a value right behind an option. Older
readers of command lines drop them. -/
inductive Dashes
  | kept
  | dropped
  deriving DecidableEq

/-- What an option that ends the reading asks for. -/
inductive Stop
  | help
  | version
  deriving DecidableEq

/-- An option. -/
structure OptionForm where
  names : List String
  takesValue : Bool := false
  /-- The values it takes, if not all are allowed. -/
  choices : List String := []
  /-- The labels of the options that cannot be given with it. -/
  excludes : List String := []
  stop : Option Stop := none

/-- The label of an option in messages. -/
def OptionForm.label (option : OptionForm) : String :=
  "/".intercalate option.names

/-- The options and operands of a list of arguments. -/
structure Form where
  /-- The name in front of messages. -/
  program : String
  options : List OptionForm
  operands : List String := []
  /-- Whether the first operand is a command, which takes all arguments after it. -/
  hasCommand : Bool := false
  dashes : Dashes

/-! ## Faults -/

/-- What is wrong with a list of arguments. -/
inductive UsageError
  | ambiguous
      (given : Text)
      (candidates : List Text)
  | missingValue (label : String)
  | unusedValue
      (label : String)
      (value : Text)
  | invalidChoice
      (label : String)
      (value : Text)
      (choices : List String)
  | excluded (label other : String)
  | missingOperands (names : List String)
  | unrecognized (arguments : List Text)

/-- A list in a message. -/
def listed (items : List Text) : Text :=
  Text.join [',', ' '] items

/-- A remark on an option or operand in a message. -/
def onArgument (label : String) (remark : Text) : Text :=
  "argument ".toList ++ label.toList ++ ": ".toList ++ remark

/-- The message on a fault. -/
def UsageError.message : UsageError -> Text
  | .ambiguous given candidates =>
      "ambiguous option: ".toList ++ given ++ " could match ".toList ++ listed candidates
  | .missingValue label => onArgument label "expected one argument".toList
  | .unusedValue label value =>
      onArgument label ("ignored explicit argument ".toList ++ Quoted.encode value)
  | .invalidChoice label value choices =>
      onArgument label ("invalid choice: ".toList ++ Quoted.encode value ++
        " (choose from ".toList ++
          listed (choices.map fun choice => Quoted.encode choice.toList) ++
        [')'])
  | .excluded label other =>
      onArgument label ("not allowed with argument ".toList ++ other.toList)
  | .missingOperands names =>
      "the following arguments are required: ".toList ++ listed (names.map String.toList)
  | .unrecognized arguments =>
      "unrecognized arguments: ".toList ++ Text.join [' '] arguments

/-- Why reading ends early. -/
inductive Halt
  | stopped
      (program : String)
      (stop : Stop)
  | refused
      (program : String)
      (error : UsageError)

/-! ## The kinds of arguments -/

/-- What an argument is. -/
inductive Mark
  /-- The two dashes after which all arguments are operands. -/
  | dashes
  | operand
  /-- An argument that looks like an option but is none. -/
  | unknown
  | option
      (option : OptionForm)
      (name : Text)
      (value : Option Text)

/-- An argument with what it is. -/
abbrev Marked := Text × Mark

/-- Two dashes. -/
def twoDashes : Text := ['-', '-']

/-- An argument up to its first equals sign, and what follows it. -/
def splitValue (argument : Text) : Text × Option Text :=
  match argument.dropWhile (· ≠ '=') with
  | [] => (argument, none)
  | _ :: value => (argument.takeWhile (· ≠ '='), some value)

/-- Whether an argument is a dash and a number. -/
def isNegativeNumber : Text -> Bool
  | '-' :: rest =>
      let isDigit (char : Char) : Bool := (Digit.value? char).isSome
      let number := if rest.getLast? = some '\n' then rest.dropLast else rest
      match number.dropWhile isDigit with
      | [] => !number.isEmpty
      | '.' :: fraction => !fraction.isEmpty && fraction.all isDigit
      | _ => false
  | _ => false

namespace Form

/-- The names of all options, with their options. -/
def named (form : Form) : List (Text × OptionForm) :=
  form.options.flatMap fun option => option.names.map fun name => (name.toList, option)

/-- The options that an argument may mean: those whose names it begins, and the
single-letter option whose letter it begins with. -/
def candidates (form : Form) (argument : Text) : List (Text × OptionForm × Option Text) :=
  let (beginning, value) := splitValue argument
  if twoDashes.isPrefixOf argument then
    (form.named.filter fun entry => beginning.isPrefixOf entry.1).map fun entry =>
      (entry.1, entry.2, value)
  else
    form.named.filterMap fun entry =>
      if entry.1 = argument.take 2 then some (entry.1, entry.2, some (argument.drop 2))
      else if argument.isPrefixOf entry.1 then some (entry.1, entry.2, none)
      else none

/-- What an argument that is not two dashes is. -/
def mark (form : Form) (argument : Text) : Except UsageError Mark :=
  match argument with
  | '-' :: _ :: _ =>
      let (name, value) := splitValue argument
      match form.named.lookup argument, value.bind fun _ => form.named.lookup name with
      | some option, _ => .ok (.option option argument none)
      | none, some option => .ok (.option option name value)
      | none, none =>
          match form.candidates argument with
          | [] =>
              .ok (if isNegativeNumber argument || argument.contains ' ' then .operand
                else .unknown)
          | [(name, option, value)] => .ok (.option option name value)
          | several => .error (.ambiguous argument (several.map (·.1)))
  | _ => .ok .operand

/-- Mark all arguments. -/
def markAll (form : Form) : List Text -> Except UsageError (List Marked)
  | [] => .ok []
  | argument :: rest =>
      if argument = twoDashes then
        .ok ((argument, .dashes) :: rest.map fun operand => (operand, .operand))
      else do
        let mark ← form.mark argument
        let marks ← form.markAll rest
        return (argument, mark) :: marks

end Form

/-! ## Values -/

/-- The value that words give: a text, or the list of the words if there is not one
alone. -/
def wordsValue : List Text -> Value
  | [word] => .ofText word
  | words => .list (words.map Value.ofText)

/-- The value that stands right behind an option. Two dashes that are dropped leave no
word. -/
def givenValue (dashes : Dashes) (text : Text) : Value :=
  match dashes with
  | .kept => .ofText text
  | .dropped => wordsValue ([text].erase twoDashes)

/-- Options with their values. -/
abbrev Taken := List (OptionForm × Value)

namespace Form

/-- Take an option with no value behind it, and the number of arguments that follow as its
value. -/
def take (option : OptionForm) (after : List Marked) : Except UsageError (Taken × Nat) :=
  if option.takesValue then
    match after with
    | (word, .operand) :: _ => .ok ([(option, .ofText word)], 1)
    | _ => .error (.missingValue option.label)
  else
    .ok ([(option, .bool true)], 0)

/-- Take an option with a text behind it. If the option has a single letter and takes no
value, the text begins with the letter of another option. -/
def takeBundle
    (form : Form)
    (after : List Marked)
    (isLong : Bool)
    (option : OptionForm) : Text -> Except UsageError (Taken × Nat)
  | [] =>
      if option.takesValue then .ok ([(option, givenValue form.dashes [])], 0)
      else .error (.unusedValue option.label [])
  | char :: rest =>
      if option.takesValue then
        .ok ([(option, givenValue form.dashes (char :: rest))], 0)
      else
        match isLong, form.named.lookup ['-', char] with
        | false, some next => do
            let (others, count) ←
              if rest.isEmpty then take next after
              else form.takeBundle after false next rest
            return ((option, .bool true) :: others, count)
        | _, _ => .error (.unusedValue option.label (char :: rest))

/-- Take an option, with all others that stand behind the same dash. -/
def takeOption
    (form : Form)
    (after : List Marked)
    (option : OptionForm)
    (name : Text)
    (value : Option Text) : Except UsageError (Taken × Nat) :=
  match value with
  | none => take option after
  | some text => form.takeBundle after (twoDashes.isPrefixOf name) option text

end Form

/-- The words of the operand that comes next, with two dashes in front of or behind it. -/
def operandWords : List Marked -> List Text
  | (dashes, .dashes) :: (word, .operand) :: _ => [dashes, word]
  | (word, .operand) :: (dashes, .dashes) :: _ => [word, dashes]
  | (word, .operand) :: _ => [word]
  | _ => []

/-- The words of the operands that come next, at most the given number of them. -/
def operandGroups : Nat -> List Marked -> List (List Text)
  | 0, _ => []
  | count + 1, marked =>
      let words := operandWords marked
      if words.isEmpty then []
      else words :: operandGroups count (marked.drop words.length)

/-! ## Reading -/

/-- What was read of a list of arguments. -/
structure Reading where
  /-- The options by their labels, in the order in which they were given. -/
  chosen : List (String × Value)
  operands : List Value
  /-- The command and the arguments after it. -/
  command : List Text
  /-- The arguments that belong nowhere. -/
  leftOver : List Text

namespace Reading

/-- Nothing read yet. -/
def empty : Reading := ⟨[], [], [], []⟩

/-- Leave an argument over. -/
def leave (reading : Reading) (argument : Text) : Reading :=
  { reading with leftOver := reading.leftOver ++ [argument] }

/-- The value of an option, the last one if it was given several times. -/
def value? (reading : Reading) (option : OptionForm) : Option Value :=
  reading.chosen.reverse.lookup option.label

/-- Whether an option was given. -/
def has (reading : Reading) (option : OptionForm) : Bool :=
  (reading.value? option).isSome

end Reading

namespace Form

/-- End the reading with a fault. -/
def refuse (form : Form) (error : UsageError) : Halt :=
  .refused form.program error

/-- Choose an option, unless its value or another option forbids it. -/
def choose (form : Form) (reading : Reading) (taken : OptionForm × Value) :
    Except Halt Reading := do
  let (option, value) := taken
  match value with
  | .text text =>
      if !option.choices.isEmpty && !option.choices.contains text then
        throw (form.refuse (.invalidChoice option.label text.toList option.choices))
  | _ => pure ()
  match option.excludes.find? fun label => (reading.chosen.lookup label).isSome with
  | some label => throw (form.refuse (.excluded option.label label))
  | none => pure ()
  match option.stop with
  | some stop => throw (.stopped form.program stop)
  | none => return { reading with chosen := reading.chosen ++ [(option.label, value)] }

/-- Read arguments that were marked. -/
def readMarked (form : Form) (reading : Reading) (marked : List Marked) :
    Except Halt Reading :=
  match marked with
  | [] => .ok reading
  | (argument, .unknown) :: rest => form.readMarked (reading.leave argument) rest
  | (_, .option option name value) :: rest =>
      match form.takeOption rest option name value with
      | .error error => .error (form.refuse error)
      | .ok (taken, count) =>
          match taken.foldlM form.choose reading with
          | .error halt => .error halt
          | .ok further => form.readMarked further (rest.drop count)
  | (argument, mark) :: rest =>
      let missing := form.operands.length - reading.operands.length
      let groups := operandGroups missing ((argument, mark) :: rest)
      if form.hasCommand && !(operandWords ((argument, mark) :: rest)).isEmpty then
        .ok { reading with command := argument :: rest.map (·.1) }
      else
        match groups.flatten.length with
        | 0 => form.readMarked (reading.leave argument) rest
        | count + 1 =>
            let values := groups.map fun words => wordsValue (words.erase twoDashes)
            form.readMarked { reading with operands := reading.operands ++ values }
              (rest.drop count)
  termination_by marked.length

/-- Read arguments, all operands of the form among them. -/
def read (form : Form) (arguments : List Text) : Except Halt Reading := do
  let marked ← (form.markAll arguments).mapError form.refuse
  let reading ← form.readMarked .empty marked
  match form.operands.drop reading.operands.length with
  | [] => return reading
  | missing => throw (form.refuse (.missingOperands missing))

end Form
end Command
end WildcardDiff
