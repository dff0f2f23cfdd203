import StorageCompat.Files.Path
import StorageCompat.Text.Digit

/-!
The arguments of the command. An option may be shortened as long as it stays the only one
that starts so, and its value may stand behind an equals sign or be the next argument. Of an
option that is given more than once the last value counts. Arguments that are neither options
nor values are refused, unless the reading comes to an option that asks for help.
-/

namespace StorageCompat.Command

open Files (Path)

inductive Setting where
  | help
  | older
  | newer
  | contract
  | newerContract
  | config
  | includeEqual
  | saveLayout
  | jsonOutput
  | debug
  deriving DecidableEq, Repr

namespace Setting

def takesValue : Setting → Bool
  | .help | .includeEqual | .debug => false
  | _ => true

def spellings : List (String × Setting) :=
  [("-h", .help), ("--help", .help), ("--original", .older), ("--updated", .newer),
    ("--contract", .contract), ("--updated-contract", .newerContract),
    ("--config", .config), ("--include-equal", .includeEqual),
    ("--save-layout", .saveLayout), ("--json-output", .jsonOutput), ("--debug", .debug)]

end Setting

inductive Word where
  /-- An option, with the value behind its equals sign. -/
  | option (setting : Setting) (value : Option String)
  /-- Not an option: the value of one, if anything. -/
  | plain (text : String)
  /-- Written like an option, but none. -/
  | unknown
  /-- Written like the start of more than one option. -/
  | ambiguous
  /-- Ends the options. -/
  | separator
  deriving DecidableEq, Repr

/-- A negative number: digits behind a minus sign, at most one point among them and not at
the end. -/
def isNegativeNumber (text : List Char) : Bool :=
  match text with
  | '-' :: digits =>
      let digits := if digits.getLast? = some '\n' then digits.dropLast else digits
      match Text.cut? '.' digits with
      | some (whole, behind) =>
          whole.all Text.isDecimalDigit && !behind.isEmpty && behind.all Text.isDecimalDigit
      | none => !digits.isEmpty && digits.all Text.isDecimalDigit
  | _ => false

def startingWith (start : List Char) : List Setting :=
  (Setting.spellings.filter fun entry => start.isPrefixOf entry.1.toList).map Prod.snd

/-- Whether letters behind that of an option without a value are letters of more such options.
A letter of none ends them. -/
def areLetters : List Char → Bool
  | [] => true
  | letter :: rest =>
      if letter = '-' || letter = '=' then false
      else if letter = 'h' then areLetters rest
      else true

/-- The options that an argument may mean which spells none exactly, with its value. -/
def shortened (text : List Char) : List (Setting × Option String) :=
  match text with
  | '-' :: '-' :: _ =>
      match Text.cut? '=' text with
      | some (start, value) =>
          (startingWith start).map fun setting => (setting, some (String.ofList value))
      | none => (startingWith text).map fun setting => (setting, none)
  | '-' :: letter :: value =>
      Setting.spellings.filterMap fun entry =>
        if entry.1 = String.ofList ['-', letter] then
          some (entry.2,
            if !entry.2.takesValue && areLetters value then none
            else some (String.ofList value))
        else if text.isPrefixOf entry.1.toList then some (entry.2, none)
        else none
  | _ => []

def spelled? (text : List Char) : Option (Setting × Option String) :=
  match Setting.spellings.lookup (String.ofList text) with
  | some setting => some (setting, none)
  | none =>
      match Text.cut? '=' text with
      | some (start, value) =>
          (Setting.spellings.lookup (String.ofList start)).map fun setting =>
            (setting, some (String.ofList value))
      | none => none

def Word.ofArgument (argument : String) : Word :=
  let text := argument.toList
  match text with
  | '-' :: _ :: _ =>
      if argument = "--" then .separator
      else
        match spelled? text with
        | some (setting, value) => .option setting value
        | none =>
            match shortened text with
            | [(setting, value)] => .option setting value
            | _ :: _ => .ambiguous
            | [] =>
                if isNegativeNumber text || text.contains ' ' then .plain argument
                else .unknown
  | _ => .plain argument

structure Collected where
  values : List (Setting × String) := []
  given : List Setting := []
  strange : Bool := false

namespace Collected

/-- The value of an option: the one that was given last. -/
def value? (collected : Collected) (setting : Setting) : Option String :=
  collected.values.reverse.lookup setting

def withValue (collected : Collected) (setting : Setting) (value : String) : Collected :=
  { collected with values := collected.values ++ [(setting, value)] }

def withSwitch (collected : Collected) (setting : Setting) : Collected :=
  { collected with given := collected.given ++ [setting] }

end Collected

structure Arguments where
  older : Path
  newer : Path
  contract : Option String := none
  newerContract : Option String := none
  config : Option Path := none
  includeEqual : Bool := false
  saveLayout : Option Path := none
  jsonOutput : Option Path := none
  debug : Bool := false
  deriving DecidableEq, Repr

inductive Request where
  | check (arguments : Arguments)
  | help
  | refused
  deriving DecidableEq, Repr

def Collected.finish (collected : Collected) : Request :=
  let path (setting : Setting) := (collected.value? setting).map Path.ofText
  match collected.strange, path .older, path .newer with
  | false, some older, some newer =>
      .check {
        older, newer
        contract := collected.value? .contract
        newerContract := collected.value? .newerContract
        config := path .config
        includeEqual := collected.given.contains .includeEqual
        saveLayout := path .saveLayout
        jsonOutput := path .jsonOutput
        debug := collected.given.contains .debug }
  | _, _, _ => .refused

/-- Reads words from the first one on. What is neither an option nor the value of one is passed
over, because a later option may ask for help; a word that may mean more than one option ends
the reading, and so does a separator, behind which no option stands. -/
def readWords (collected : Collected) : List Word → Request
  | [] => collected.finish
  | .option setting none :: rest =>
      if setting = .help then .help
      else if setting.takesValue then
        match rest with
        | .plain value :: rest => readWords (collected.withValue setting value) rest
        | _ => .refused
      else readWords (collected.withSwitch setting) rest
  | .option setting (some value) :: rest =>
      if setting.takesValue then readWords (collected.withValue setting value) rest
      else .refused
  | .plain _ :: rest => readWords { collected with strange := true } rest
  | .unknown :: rest => readWords { collected with strange := true } rest
  | .ambiguous :: _ => .refused
  | .separator :: _ => .refused

def Request.ofArguments (arguments : List String) : Request :=
  readWords {} (arguments.map Word.ofArgument)

def Arguments.contractOfNewer (arguments : Arguments) : Option String :=
  match arguments.newerContract with
  | some name => if name.isEmpty then arguments.contract else some name
  | none => arguments.contract

end StorageCompat.Command
