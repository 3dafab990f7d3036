import RequestFlow.Bundle.Basic
import RequestFlow.Run.Policy
import RequestFlow.Text.Ascii
import RequestFlow.Text.Split

/-!
Contract: what a command line can ask for.

Owns: the commands and their options, the texts that each option takes, and
invocations, which are command lines that were understood.

Does not own: the reading of command lines (`Command.Arguments`).
-/

namespace RequestFlow

/-- How results and errors are written. -/
inductive OutputFormat where
  | text
  | json
deriving DecidableEq, Repr

structure OutputOptions where
  format : OutputFormat
  quiet : Bool
deriving DecidableEq, Repr

/-- The options of a command that sends requests. -/
structure RunOptions where
  environment : Option String
  variablesFile : Option String
  inputsFile : Option String
  settings : List String
  live : Bool
  status : Nat
  body : String
  timeout : Nat
  maxBytes : Nat
  policy : FailurePolicy
deriving DecidableEq, Repr

/-- What is done with a bundle: check it, list its operations, run a scenario of
an operation, or send a single request. -/
inductive Task where
  | validate
  | operations
  | run (operation : String) (scenario : Option String) (options : RunOptions)
  | send (target : Target) (options : RunOptions)
deriving DecidableEq, Repr

/-- A command line that was understood. -/
structure Invocation where
  path : String
  output : OutputOptions
  logFilter : Option String
  task : Task
deriving DecidableEq, Repr

/-- The options of a task that sends requests. -/
def Task.options? : Task → Option RunOptions
  | .validate | .operations => none
  | .run _ _ options | .send _ options => some options

/-- The files that an invocation reads. -/
def Invocation.files (invocation : Invocation) : List String :=
  let further :=
    match invocation.task.options? with
    | some options => options.variablesFile.toList ++ options.inputsFile.toList
    | none => []
  invocation.path :: further

/-! ## Commands -/

inductive CommandName where
  | validate
  | operations
  | run
  | send
deriving DecidableEq, Repr

def CommandName.word : CommandName → String
  | .validate => "validate"
  | .operations => "operations"
  | .run => "run"
  | .send => "try"

def CommandName.all : List CommandName := [.validate, .operations, .run, .send]

def CommandName.ofWord? (word : String) : Option CommandName :=
  CommandName.all.find? fun command => command.word == word

/-! ## Options -/

inductive OptionName where
  | help
  | version
  | logLevel
  | format
  | quiet
  | operation
  | request
  | scenario
  | environment
  | variablesFile
  | inputsFile
  | setting
  | live
  | status
  | body
  | timeout
  | maxBytes
  | policy
deriving DecidableEq, Repr

namespace OptionName

def word : OptionName → String
  | help => "help"
  | version => "version"
  | logLevel => "log-level"
  | format => "format"
  | quiet => "quiet"
  | operation => "operation"
  | request => "request"
  | scenario => "scenario"
  | environment => "env"
  | variablesFile => "env-file"
  | inputsFile => "inputs"
  | setting => "set"
  | live => "live"
  | status => "mock-status"
  | body => "mock-body"
  | timeout => "timeout"
  | maxBytes => "max-response-bytes"
  | policy => "failure-policy"

/-- The letter of an option that has one. -/
def letter? : OptionName → Option Char
  | help => some 'h'
  | version => some 'V'
  | quiet => some 'q'
  | _ => none

/-- Flags stand alone; all other options take a value. -/
def isFlag : OptionName → Bool
  | help | version | quiet | live => true
  | _ => false

/-- The options in front of a command. -/
def global : List OptionName := [help, version, logLevel]

/-- The options of a task that sends requests. -/
def ofRuns : List OptionName :=
  [environment, variablesFile, inputsFile, setting, live, status, body, timeout, maxBytes,
    policy]

/-- The options behind a command. -/
def ofCommand : CommandName → List OptionName
  | .validate | .operations => [help, logLevel, format, quiet]
  | .run => [help, logLevel, format, quiet, operation, scenario] ++ ofRuns
  | .send => [help, logLevel, format, quiet, operation, request] ++ ofRuns

end OptionName

/-! ## Values -/

namespace OptionValue

def format? : String → Option OutputFormat
  | "text" => some .text
  | "json" => some .json
  | _ => none

/-- A number in digits, with or without a plus sign. -/
def natural? (text : List Char) : Option Nat :=
  let digits := Text.dropMark '+' text
  if !digits.isEmpty && digits.all Text.isDigit then some (Text.digitsValue digits) else none

/-- The statuses that a response can have are below this number. -/
def statusBound : Nat := 0x10000

/-- A status. Zero may have a minus sign. -/
def status? (text : String) : Option Nat :=
  match text.toList with
  | '-' :: digits =>
      if !digits.isEmpty && digits.all (· == '0') then some 0 else none
  | digits => (natural? digits).filter (· < statusBound)

/-- Sizes and durations are below this number. -/
def sizeBound : Nat := 0x10000000000000000

def size? (text : String) : Option Nat :=
  (natural? text.toList).filter (· < sizeBound)

def policy? (text : String) : Option FailurePolicy :=
  (FailurePolicy.ofWord text).toOption

end OptionValue

/-- Whether an option takes a value. A path is not empty. -/
def OptionName.accepts (name : OptionName) (value : String) : Bool :=
  match name with
  | .format => (OptionValue.format? value).isSome
  | .status => (OptionValue.status? value).isSome
  | .timeout | .maxBytes => (OptionValue.size? value).isSome
  | .policy => (OptionValue.policy? value).isSome
  | .variablesFile | .inputsFile => !value.isEmpty
  | _ => true

end RequestFlow
