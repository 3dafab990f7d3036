import RequestFlow.Variable.Builtin

/-!
Contract: the stack that a run starts with.

Owns: the scope of a bundle's environment, resolved against the caller's
variables, and the seed made of built-ins, environment and inputs.

A later scope wins over an earlier one, so inputs win over the environment and
the environment over the built-ins.
-/

namespace RequestFlow

inductive SeedError where
  | unknownEnvironment (name : String)
  | missingRequired (names : List String)
deriving DecidableEq, Repr

def SeedError.message : SeedError → String
  | .unknownEnvironment name => "unknown environment: " ++ name
  | .missingRequired names =>
      "missing required environment variables: " ++ String.intercalate ", " names

namespace Seed

def defaultEnvironment : String := "default"

def inputsId : String := "inputs"

/-- The value of a variable: the caller's, else the declared one. -/
def variableValue? (external : Dict String) (declared : EnvironmentVariable) : Option Json :=
  match external.get? declared.name with
  | some value => some (.string value)
  | none => declared.fallback

/-- The outside names of the required variables that have no value. -/
def missing (external : Dict String) (environment : Environment) : List String :=
  environment.declarations.values.filterMap fun declared =>
    if declared.required && (variableValue? external declared).isNone then some declared.name
    else none

/-- The variables of an environment that have a value. -/
def values (external : Dict String) (environment : Environment) : Dict Json :=
  Dict.ofList (environment.declarations.entries.filterMap fun (name, declared) =>
    (variableValue? external declared).map fun value => (name, value))

/-- The scope of a declared environment. -/
def environmentScope (bundle : Bundle) (name : String) (external : Dict String) :
    Except SeedError Scope :=
  match bundle.environments.get? name with
  | none => .error (.unknownEnvironment name)
  | some environment =>
      match missing external environment with
      | [] => .ok (Scope.plain ("environment:" ++ name) (values external environment))
      | names => .error (.missingRequired names)

/-- The environment to use: the chosen one, else the default one if it is declared. -/
def chosenEnvironment? (bundle : Bundle) (chosen : Option String) : Option String :=
  match chosen with
  | some name => some name
  | none =>
      if bundle.environments.contains defaultEnvironment then some defaultEnvironment else none

/-- The seed: the built-ins, the environment if there is one, and the inputs if
there are any. -/
def build (bundle : Bundle) (builtins : Scope) (chosen : Option String)
    (external : Dict String) (inputs : Dict Json) : Except SeedError ScopeStack := do
  let environment ←
    match chosenEnvironment? bundle chosen with
    | none => .ok []
    | some name => (environmentScope bundle name external).map fun scope => [scope]
  let given := if inputs.isEmpty then [] else [Scope.plain inputsId inputs]
  .ok ⟨[builtins] ++ environment ++ given⟩

end Seed

end RequestFlow
