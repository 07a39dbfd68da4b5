import HealthMonitor.Text.Numeral

/-!
# Options on a command line

Words after a command are options with their values.  A value follows its
option as the next word, or in the same word: after an equals sign, or right
after the letter of a short option.  An option is settled when the next one is
met or the line ends; only then is it missed if it has no value, refused if it
was given before, and its value checked.
-/

namespace HealthMonitor.CommandLine

/-- Why a command line is not accepted.  The first two ask for help. -/
inductive UsageError where
  | help
  | missingCommand
  | unknownCommand
  | unknownArgument
  | missingOption
  | missingValue
  | invalidValue
  | repeated
  | unneededValue
  deriving DecidableEq, Repr

def UsageError.text : UsageError → String
  | help => "help was asked for"
  | missingCommand => "a command is missing"
  | unknownCommand => "there is no such command"
  | unknownArgument => "there is an unexpected argument"
  | missingOption => "a required option is missing"
  | missingValue => "an option has no value"
  | invalidValue => "an option has an invalid value"
  | repeated => "an option is given twice"
  | unneededValue => "an option takes no value"

/-- An option of a command. -/
structure OptionSpec where
  /-- The long name, and other long names for the same option. -/
  name : String
  aliases : List String := []
  letter : Option Char := none
  /-- Whether a negative number after the option is its value. -/
  negative : Bool := false
  /-- The fault of a value, if it has one. -/
  fault? : String → Option UsageError := fun _ => none

/-- The forms that a word on a command line has. -/
inductive Word where
  /-- Two dashes: no options from here on. -/
  | escape
  | long (name : String) (value : Option String)
  /-- A short option and what follows its letter. -/
  | short (letter : Char) (rest : List Char)
  | plain

namespace Word

def ofChars : List Char → Word
  | ['-', '-'] => escape
  | '-' :: '-' :: body =>
      match body.dropWhile (· ≠ '=') with
      | _ :: value =>
          long (String.ofList (body.takeWhile (· ≠ '='))) (some (String.ofList value))
      | [] => long (String.ofList body) none
  | '-' :: letter :: rest => short letter rest
  | _ => plain

def ofText (word : String) : Word :=
  ofChars word.toList

/-- The value after the letter of a short option: what follows an equals sign,
or everything, unless that is nothing. -/
def attached? : List Char → Option String
  | '=' :: value => some (String.ofList value)
  | [] => none
  | value => some (String.ofList value)

end Word

/-! ## Negative numbers -/

/-- Whether characters continue a number: digits with at most one point, and
an exponent that is not at the end. -/
def continuesNumber (point exponent : Bool) : List Char → Bool
  | [] => true
  | c :: rest =>
      if (Text.digit? c).isSome then continuesNumber point exponent rest
      else if c = '.' then !point && !exponent && continuesNumber true exponent rest
      else if c = 'e' then !exponent && !rest.isEmpty && continuesNumber point true rest
      else false

/-- Whether a dash before these characters makes a negative number. -/
def isNumber : List Char → Bool
  | [] => false
  | c :: rest => (Text.digit? c).isSome && continuesNumber false false rest

/-! ## Reading options -/

/-- The options settled so far with their values, by their long names. -/
abbrev Given := List (String × String)

/-- Where reading stands. -/
structure Scan where
  given : Given := []
  /-- The last option and its value, not settled yet. -/
  pending : Option (OptionSpec × Option String) := none
  /-- Whether two dashes have been met. -/
  escaped : Bool := false

namespace Scan

/-- Settles an option. -/
def put (given : Given) (spec : OptionSpec) (value : String) : Except UsageError Given :=
  if (given.lookup spec.name).isSome then .error .repeated
  else
    match spec.fault? value with
    | some fault => .error fault
    | none => .ok (given ++ [(spec.name, value)])

/-- Settles the last option, which must have its value by now. -/
def settle (scan : Scan) : Except UsageError Given :=
  match scan.pending with
  | none => .ok scan.given
  | some (_, none) => .error .missingValue
  | some (spec, some value) => put scan.given spec value

/-- The option that the next word may be the value of. -/
def awaiting? (scan : Scan) : Option OptionSpec :=
  match scan.pending with
  | some (spec, none) => some spec
  | _ => none

/-- Takes an option, with its value if that is in the same word. -/
def take (scan : Scan) (spec : OptionSpec) (value : Option String) : Except UsageError Scan := do
  let given ← scan.settle
  match value with
  | some value => return { scan with given := ← put given spec value, pending := none }
  | none => return { scan with given, pending := some (spec, none) }

/-- Takes a request for help, once the last option is settled. -/
def askHelp (scan : Scan) : Except UsageError Scan := do
  let _ ← scan.settle
  .error .help

/-- Takes a word as the value of the option before it. -/
def takeValue (scan : Scan) (word : String) : Except UsageError Scan :=
  match scan.awaiting? with
  | some spec => .ok { scan with pending := some (spec, some word) }
  | none => .error .unknownArgument

def findLong? (specs : List OptionSpec) (name : String) : Option OptionSpec :=
  specs.find? fun spec => spec.name == name || spec.aliases.contains name

def findShort? (specs : List OptionSpec) (letter : Char) : Option OptionSpec :=
  specs.find? fun spec => spec.letter == some letter

/-- Takes one word. -/
def next (specs : List OptionSpec) (scan : Scan) (word : String) : Except UsageError Scan :=
  if scan.escaped then .error .unknownArgument
  else
    match Word.ofText word with
    | .escape => .ok { scan with escaped := true }
    | .long name value =>
        match findLong? specs name, value with
        | some spec, value => scan.take spec value
        | none, none => if name = "help" then scan.askHelp else .error .unknownArgument
        | none, some _ => .error (if name = "help" then .unneededValue else .unknownArgument)
    | .short letter rest =>
        if scan.awaiting?.any (·.negative) && isNumber (letter :: rest) then scan.takeValue word
        else
          match findShort? specs letter with
          | some spec => scan.take spec (Word.attached? rest)
          | none => if letter = 'h' then scan.askHelp else .error .unknownArgument
    | .plain => scan.takeValue word

end Scan

/-- The options that the words after a command give. -/
def readOptions (specs : List OptionSpec) (words : List String) : Except UsageError Given := do
  let scan ← words.foldlM (Scan.next specs) {}
  scan.settle

end HealthMonitor.CommandLine
