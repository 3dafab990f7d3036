import RequestFlow.Bundle.Loading
import RequestFlow.Command.EnvFile
import RequestFlow.Command.Inputs
import RequestFlow.Command.LogFilter
import RequestFlow.Command.Options
import RequestFlow.Report.Text
import RequestFlow.Run.Execution
import RequestFlow.Transport.Network
import RequestFlow.Variable.Seed

/-!
Contract: what the commands do.

Owns: the lines that a command writes as results and as errors, its exit code,
and the order in which files, inputs and variables are looked at. The first of
them that is wrong ends the command.

Does not own: files, clocks, random numbers and the clients for the network,
which are given as `Surroundings`.

A command whose run never ends has no result.
-/

namespace RequestFlow

/-- Why a file cannot be read. -/
inductive ReadError where
  | missing
  | directory
  | notText
  | other (reason : String)
deriving DecidableEq, Repr

def ReadError.message : ReadError → String
  | .missing => "No such file or directory (os error 2)"
  | .directory => "Is a directory (os error 21)"
  | .notText => "stream did not contain valid UTF-8"
  | .other reason => reason

/-- What a command finds around it. -/
structure Surroundings where
  read : String → Except ReadError String
  environment : Dict String
  builtins : Scope
  makeClient : Network.ClientOptions → Except String Network.Client

inductive ExitCode where
  | success
  | unusable
  | aborted
  | trouble
deriving DecidableEq, Repr

/-- Zero when all went well, two when nothing was sent because what was given is
unusable, three when a playbook was not finished, four for trouble outside the
bundle. -/
def ExitCode.toNat : ExitCode → Nat
  | .success => 0
  | .unusable => 2
  | .aborted => 3
  | .trouble => 4

/-- The lines that a command writes and its exit code. -/
structure CommandResult where
  code : ExitCode
  output : List String
  errors : List String
deriving DecidableEq, Repr

namespace Program

/-- What ends a command early. -/
structure Failure where
  code : ExitCode
  messages : List String
deriving DecidableEq, Repr

def trouble (message : String) : Failure := ⟨.trouble, [message]⟩

def unusable (message : String) : Failure := ⟨.unusable, [message]⟩

/-! ## Writing -/

def writeError (output : OutputOptions) (message : String) : List String :=
  if output.quiet then []
  else
    match output.format with
    | .text => ["error: " ++ message]
    | .json => [(Json.ofFields [("error", .string message)]).compact]

/-- A result in the format that was asked for. -/
def writeResult (output : OutputOptions) (text : List String) (json : List Json) :
    List String :=
  if output.quiet then []
  else
    match output.format with
    | .text => text
    | .json => json.map Json.compact

def Failure.result (output : OutputOptions) (failure : Failure) : CommandResult :=
  ⟨failure.code, [], failure.messages.flatMap (writeError output)⟩

/-! ## Bundles -/

def readFile (surroundings : Surroundings) (path : String) : Except Failure String :=
  (surroundings.read path).mapError fun error =>
    trouble ("failed to read " ++ path ++ ": " ++ error.message)

/-- The errors of a bundle that is not accepted: a summary and each violation. -/
def loadMessages : LoadError → List String
  | .unreadable error => [(LoadError.unreadable error).message]
  | .inconsistent violations => Violation.summary violations :: violations.map Violation.text

def loadBundle (surroundings : Surroundings) (path : String) : Except Failure Bundle := do
  let text ← readFile surroundings path
  match ParsedBundle.checked (ParsedBundle.ofText text) with
  | .ok parsed => .ok parsed.bundle
  | .error error => .error ⟨.unusable, loadMessages error⟩

/-! ## Checking -/

def countsText (parsed : ParsedBundle) : String :=
  "ok: valid playbook bundle (" ++ parsed.format.name ++ ", " ++
    Text.natText parsed.bundle.operations.size ++ " operations, " ++
    Text.natText parsed.bundle.requests.size ++ " requests, " ++
    Text.natText parsed.bundle.credentialNames.length ++ " credentials)"

def verdict (parsed : ParsedBundle) (violations : List Violation) : Json :=
  let errors :=
    if violations.isEmpty then []
    else [("errors", Json.ofStrings (violations.map Violation.text))]
  Json.ofFields ([("valid", .bool violations.isEmpty),
    ("format", .string parsed.format.name),
    ("operations", Json.ofNat parsed.bundle.operations.size),
    ("requests", Json.ofNat parsed.bundle.requests.size),
    ("credentials", Json.ofNat parsed.bundle.credentialNames.length)] ++ errors)

/-- The errors of an inconsistent bundle. In JSON they are part of the verdict. -/
def violationLines (output : OutputOptions) (violations : List Violation) : List String :=
  writeResult output
    ("error: validation failed" :: violations.map fun violation => "- " ++ violation.text) []

def validate (surroundings : Surroundings) (path : String) (output : OutputOptions) :
    Except Failure CommandResult := do
  let text ← readFile surroundings path
  let parsed ← (ParsedBundle.ofText text).mapError fun error => unusable error.message
  match parsed.bundle.validate with
  | .ok () =>
      .ok ⟨.success, writeResult output [countsText parsed] [verdict parsed []], []⟩
  | .error violations =>
      .ok ⟨.unusable, writeResult output [] [verdict parsed violations],
        violationLines output violations⟩

/-! ## Listing -/

def scenarioJson (scenario : Scenario) : Json :=
  Json.ofFields [("key", .string scenario.key),
    ("stage_count", Json.ofNat scenario.requests.length)]

def methodText (operation : Operation) : String := Text.upper operation.request.request.method

def operationJson (operation : Operation) : Json :=
  let auth := operation.request.auth
  Json.ofFields ([("operation_id", .string operation.operationId),
    ("method", .string (methodText operation)),
    ("url", .string operation.request.request.url)] ++
    (if auth.isEmpty then [] else [("auth", Json.ofStrings auth)]) ++
    [("scenarios", Json.ofList scenarioJson operation.scenarios)])

def listingJson (bundle : Bundle) : Json :=
  Json.ofFields [("operations", Json.ofList operationJson bundle.operations.values),
    ("requests", Json.ofStrings bundle.requests.keys)]

def scenarioText (scenario : Scenario) : String :=
  "      scenario " ++ scenario.key ++ " (" ++ Text.natText scenario.requests.length ++
    " stages)"

def operationLines (operation : Operation) : List String :=
  ("  - " ++ operation.operationId ++ " (" ++ methodText operation ++ " " ++
    operation.request.request.url ++ ")") :: operation.scenarios.map scenarioText

def listingLines (path : String) (bundle : Bundle) : List String :=
  ("Operations in " ++ path ++ ":") :: bundle.operations.values.flatMap operationLines ++
    if bundle.requests.isEmpty then []
    else ["Requests: " ++ String.intercalate ", " bundle.requests.keys]

def listOperations (surroundings : Surroundings) (path : String) (output : OutputOptions) :
    Except Failure CommandResult := do
  let bundle ← loadBundle surroundings path
  .ok ⟨.success, writeResult output (listingLines path bundle) [listingJson bundle], []⟩

/-! ## Running -/

/-- The variables of the caller: those of the environment with those of the file
put over them. -/
def callerVariables (surroundings : Surroundings) (options : RunOptions) :
    Except Failure (Dict String) :=
  match options.variablesFile with
  | none => .ok surroundings.environment
  | some path => do
      let text ← readFile surroundings path
      .ok (surroundings.environment.overlay (EnvFile.parse text))

/-- A value in JSON or YAML. -/
def freeValue? (text : String) : Option Json :=
  match Document.JsonText.toJson text with
  | .ok value => some value
  | .error _ =>
      (Document.Yaml.parse? text).bind fun root => (Document.Decode.json .yaml root).toOption

def readInputs (surroundings : Surroundings) (path : String) : Except Failure Json := do
  let text ← (surroundings.read path).mapError fun error =>
    trouble ("failed to read inputs: " ++ error.message)
  match freeValue? text with
  | some value => .ok value
  | none => .error (trouble "inputs file is neither valid JSON nor YAML")

/-- The inputs: those of the file with the settings put over them. -/
def givenInputs (surroundings : Surroundings) (options : RunOptions) :
    Except Failure (Dict Json) := do
  let read ←
    match options.inputsFile with
    | none => .ok none
    | some path => (readInputs surroundings path).map some
  let merged ← (Inputs.merge read options.settings).mapError fun error =>
    unusable error.message
  match merged with
  | none => .ok ∅
  | some value =>
      match value.toDict? with
      | some inputs => .ok inputs
      | none => .error (unusable "inputs must be an object")

/-- The stack that a run starts with. -/
def seed (surroundings : Surroundings) (bundle : Bundle) (options : RunOptions) :
    Except Failure ScopeStack := do
  let external ← callerVariables surroundings options
  let inputs ← givenInputs surroundings options
  (Seed.build bundle surroundings.builtins options.environment external inputs).mapError
    fun error => unusable error.message

/-- The response that answers every request of a run that is not live. -/
def madeUpResponse (options : RunOptions) : HttpResponse :=
  { HttpResponse.ofStatus options.status with body := options.body }

/-- The transport of a run: over the network if it is live. -/
def transport (surroundings : Surroundings) (options : RunOptions) : Except Failure Transport :=
  if options.live then
    (Network.connect surroundings.makeClient ⟨options.timeout, options.maxBytes⟩).mapError
      fun error => trouble error.message
  else .ok (Transport.constant (madeUpResponse options))

def runResult (output : OutputOptions) (run : Run) : CommandResult :=
  { code := if run.outcome.succeeded then .success else .aborted
    output := writeResult output (ReportText.run 0 (RunReport.ofEvents run.events))
      (run.events.map Event.toJson)
    errors := [] }

/-- Runs playbooks on a bundle and writes the report, or in JSON the events. -/
def runPlaybooks (surroundings : Surroundings) (bundle : Bundle)
    (playbooks : Except ResolveError (List Playbook)) (options : RunOptions)
    (output : OutputOptions) : Except Failure (Option CommandResult) := do
  let playbooks ← playbooks.mapError fun error => unusable error.message
  let stack ← seed surroundings bundle options
  let sender ← transport surroundings options
  .ok ((Run.ofPlaybooks ⟨bundle, sender, options.policy⟩ playbooks stack).map (runResult output))

/-! ## Commands -/

def perform (surroundings : Surroundings) (invocation : Invocation) :
    Except Failure (Option CommandResult) :=
  match invocation.task with
  | .validate => (validate surroundings invocation.path invocation.output).map some
  | .operations => (listOperations surroundings invocation.path invocation.output).map some
  | .run operation scenario options => do
      let bundle ← loadBundle surroundings invocation.path
      runPlaybooks surroundings bundle (Playbook.ofScenario bundle operation scenario) options
        invocation.output
  | .send target options => do
      let bundle ← loadBundle surroundings invocation.path
      runPlaybooks surroundings bundle (Playbook.ofTarget bundle target) options
        invocation.output

def settle (output : OutputOptions) : Except Failure (Option CommandResult) → Option CommandResult
  | .ok result => result
  | .error failure => some (failure.result output)

/-- The result of an invocation. A filter of diagnostic messages that is not well
formed is told as text, whatever the output is. -/
def run (surroundings : Surroundings) (invocation : Invocation) : Option CommandResult :=
  match invocation.logFilter with
  | none => settle invocation.output (perform surroundings invocation)
  | some filter =>
      match LogFilter.check filter with
      | .ok () => settle invocation.output (perform surroundings invocation)
      | .error error => some ⟨.trouble, [], ["error: " ++ LogFilter.invalid filter error]⟩

end Program

end RequestFlow
