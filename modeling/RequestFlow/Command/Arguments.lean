import RequestFlow.Command.Options

/-!
Contract: the reading of command lines.

Owns: the order in which the words of a command line count, the defaults of
options, and the errors of a command line that is not understood.

The words are read from left to right, and the first of them that is wrong, asks
for help or asks for the version decides. What is missing is noticed at the end.
-/

namespace RequestFlow

/-- Why a command line is not understood. -/
inductive UsageError where
  | noCommand
  | unknownCommand (word : String)
  | unknownOption (word : String)
  | unexpected (word : String)
  | repeated (option : OptionName)
  | noValue (option : OptionName)
  | unwantedValue (option : OptionName)
  | badValue (option : OptionName) (value : String)
  | noPath
  | required (option : OptionName)
  | conflict (first second : OptionName)
deriving DecidableEq, Repr

namespace UsageError

def marked (option : OptionName) : String := "--" ++ option.word

def message : UsageError → String
  | noCommand => "a command is required"
  | unknownCommand word => "unknown command: " ++ word
  | unknownOption word => "unknown option: " ++ word
  | unexpected word => "unexpected argument: " ++ word
  | repeated option => marked option ++ " is given more than once"
  | noValue option => marked option ++ " needs a value"
  | unwantedValue option => marked option ++ " takes no value"
  | badValue option value => "invalid value for " ++ marked option ++ ": " ++ value
  | noPath => "the path of a bundle is required"
  | required option => marked option ++ " is required"
  | conflict first second => marked first ++ " cannot be used with " ++ marked second

end UsageError

/-- What a command line comes to when it does not come to an invocation. -/
inductive Ending where
  | help
  | version
  | refused (error : UsageError)
deriving DecidableEq, Repr

namespace Arguments

/-! ## Words -/

/-- The form of a word. A single dash is an operand. -/
inductive Word where
  | endOfOptions
  | long (name : String) (value : Option String)
  | letters (letters : List Char)
  | operand
deriving DecidableEq, Repr

def longWord (text : List Char) : Word :=
  match Text.cut '=' text with
  | some (name, value) => .long (String.ofList name) (some (String.ofList value))
  | none => .long (String.ofList text) none

def Word.ofText (text : String) : Word :=
  match text.toList with
  | ['-', '-'] => .endOfOptions
  | '-' :: '-' :: rest => longWord rest
  | '-' :: letter :: rest => .letters (letter :: rest)
  | _ => .operand

/-- What the next word is. Behind the end of the options all words are operands,
and behind `help` all words belong to it. -/
inductive Mode where
  | any
  | value (option : OptionName)
  | operands
  | help (words : List String)
deriving DecidableEq, Repr

/-- What was read so far. The options in front of the command are kept apart
from those behind it. -/
structure Progress where
  mode : Mode
  command : Option CommandName
  before : List (OptionName × String)
  values : List (OptionName × String)
  path : Option String
deriving DecidableEq, Repr

namespace Progress

def start : Progress := ⟨.any, none, [], [], none⟩

/-- The options that are known at this point. -/
def known (progress : Progress) : List OptionName :=
  match progress.command with
  | none => OptionName.global
  | some command => OptionName.ofCommand command

/-- Takes an option with its value, which is empty for a flag. Only `--set` may
be given more than once. -/
def give (progress : Progress) (option : OptionName) (value : String) :
    Except Ending Progress :=
  match option with
  | .help => .error .help
  | .version => .error .version
  | _ =>
      if !option.accepts value then .error (.refused (.badValue option value))
      else if option != .setting && progress.values.any fun given => given.1 == option then
        .error (.refused (.repeated option))
      else .ok { progress with mode := .any, values := progress.values ++ [(option, value)] }

/-- Takes an option by its name. -/
def giveLong (progress : Progress) (name : String) (value : Option String) :
    Except Ending Progress :=
  match progress.known.find? fun option => option.word == name, value with
  | none, _ => .error (.refused (.unknownOption ("--" ++ name)))
  | some option, some value =>
      if option.isFlag then .error (.refused (.unwantedValue option))
      else progress.give option value
  | some option, none =>
      if option.isFlag then progress.give option ""
      else .ok { progress with mode := .value option }

/-- Takes a flag by its letter. -/
def giveLetter (progress : Progress) (letter : Char) : Except Ending Progress :=
  match progress.known.find? fun option => option.letter? == some letter with
  | none => .error (.refused (.unknownOption (String.ofList ['-', letter])))
  | some option => progress.give option ""

/-- Takes an operand: the path of the bundle. -/
def giveOperand (progress : Progress) (text : String) : Except Ending Progress :=
  match progress.command, progress.path with
  | none, _ => .error (.refused (.unknownCommand text))
  | some _, some _ => .error (.refused (.unexpected text))
  | some _, none =>
      if text.isEmpty then .error (.refused .noPath)
      else .ok { progress with path := some text }

/-- The word that asks for help in the place of a command. -/
def helpWord : String := "help"

/-- Takes a word that is no option: the command, and then operands. -/
def giveBare (progress : Progress) (text : String) : Except Ending Progress :=
  match progress.command, CommandName.ofWord? text with
  | none, some command =>
      .ok { progress with command := some command, before := progress.values, values := [] }
  | none, none =>
      if text == helpWord then .ok { progress with mode := .help [] }
      else progress.giveOperand text
  | some _, _ => progress.giveOperand text

/-- Reads a word. -/
def step (progress : Progress) (text : String) : Except Ending Progress :=
  match progress.mode, Word.ofText text with
  | .help words, _ => .ok { progress with mode := .help (words ++ [text]) }
  | .operands, _ => progress.giveOperand text
  | .value option, .operand => progress.give option text
  | .value option, _ => .error (.refused (.noValue option))
  | .any, .endOfOptions => .ok { progress with mode := .operands }
  | .any, .long name value => progress.giveLong name value
  | .any, .letters letters => letters.foldlM giveLetter progress
  | .any, .operand => progress.giveBare text

end Progress

/-! ## Invocations -/

/-- The value of an option. -/
def value? (values : List (OptionName × String)) (option : OptionName) : Option String :=
  values.lookup option

def flag (values : List (OptionName × String)) (option : OptionName) : Bool :=
  (value? values option).isSome

/-- The value of an option, read, or its default. -/
def valueOr {α : Type} (values : List (OptionName × String)) (option : OptionName)
    (read : String → Option α) (standard : α) : α :=
  ((value? values option).bind read).getD standard

/-- The status of responses when none is chosen. -/
def standardStatus : Nat := 200

/-- After how many milliseconds a request is given up when no time is chosen. -/
def standardTimeout : Nat := 30000

/-- How long a body may be when no length is chosen. -/
def standardMaxBytes : Nat := 10485760

def runOptions (values : List (OptionName × String)) : RunOptions where
  environment := value? values .environment
  variablesFile := value? values .variablesFile
  inputsFile := value? values .inputsFile
  settings := values.filterMap fun (option, value) =>
    if option == .setting then some value else none
  live := flag values .live
  status := valueOr values .status OptionValue.status? standardStatus
  body := (value? values .body).getD ""
  timeout := valueOr values .timeout OptionValue.size? standardTimeout
  maxBytes := valueOr values .maxBytes OptionValue.size? standardMaxBytes
  policy := valueOr values .policy OptionValue.policy? FailurePolicy.standard

/-- The single request that is asked for. -/
def chosenTarget (values : List (OptionName × String)) : Except UsageError Target :=
  match value? values .operation, value? values .request with
  | some id, none => .ok (.operation id)
  | none, some id => .ok (.request id)
  | none, none => .error (.required .operation)
  | some _, some _ => .error (.conflict .operation .request)

def task (values : List (OptionName × String)) : CommandName → Except UsageError Task
  | .validate => .ok .validate
  | .operations => .ok .operations
  | .run =>
      match value? values .operation with
      | some operation => .ok (.run operation (value? values .scenario) (runOptions values))
      | none => .error (.required .operation)
  | .send => (chosenTarget values).map fun target => .send target (runOptions values)

/-- The invocation that was read. A filter behind the command wins over one in
front of it. -/
def invocation (progress : Progress) (command : CommandName) : Except UsageError Invocation := do
  let task ← task progress.values command
  match progress.path with
  | none => .error .noPath
  | some path =>
      .ok {
        path := path
        output := ⟨valueOr progress.values .format OptionValue.format? .text,
          flag progress.values .quiet⟩
        logFilter := value? (progress.values ++ progress.before) .logLevel
        task := task }

/-- Whether the words behind `help` name a command or nothing. -/
def asksForHelp : List String → Bool
  | [] => true
  | word :: rest =>
      if word == Progress.helpWord then rest.isEmpty || isCommand rest
      else isCommand (word :: rest)
where
  isCommand : List String → Bool
    | [word] => word == Progress.helpWord || (CommandName.ofWord? word).isSome
    | _ => false

/-- What is left to check behind the last word. -/
def finish (progress : Progress) : Except Ending Invocation :=
  match progress.mode, progress.command with
  | .help words, _ =>
      if asksForHelp words then .error .help
      else .error (.refused (.unknownCommand (String.intercalate " " words)))
  | .value option, _ => .error (.refused (.noValue option))
  | _, none => .error (.refused .noCommand)
  | _, some command => (invocation progress command).mapError .refused

/-- Reads a command line. -/
def parse (arguments : List String) : Except Ending Invocation := do
  finish (← arguments.foldlM Progress.step .start)

/-! ## Help -/

def versionText : String := "playbook 0.1.0"

/-- What an option looks like in the help. -/
def optionText (option : OptionName) : String :=
  let letter :=
    match option.letter? with
    | some letter => String.ofList ['-', letter] ++ ", "
    | none => ""
  "  " ++ letter ++ "--" ++ option.word ++ if option.isFlag then "" else " <VALUE>"

def commandText (command : CommandName) : List String :=
  ("  " ++ command.word ++ " [OPTIONS] <PATH>") ::
    (OptionName.ofCommand command).map fun option => "  " ++ optionText option

def helpLines : List String :=
  ["Usage: playbook [OPTIONS] <COMMAND>", "", "Options:"] ++
    OptionName.global.map optionText ++ ["", "Commands:"] ++
    CommandName.all.flatMap commandText

end Arguments

end RequestFlow
