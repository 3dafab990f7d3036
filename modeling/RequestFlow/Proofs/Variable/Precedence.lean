import RequestFlow.Command.Program
import RequestFlow.Proofs.Command.Inputs
import RequestFlow.Proofs.Dict
import RequestFlow.Proofs.Document.RoundTrip
import RequestFlow.Proofs.Variable.Relevance

/-!
Contract: the source that a variable of a run takes its value from.

Owns: the sources of a run, with the files read that its options name; the value that they give
a name, in their order of precedence; the lookup in a seed; and when a seed is not made.

Does not own: how one line of a file of variables is read (`Command.EnvFile`).
-/

namespace RequestFlow

open Text

/-! ## Settings -/

namespace Inputs

/-- The key of an argument, without the blanks around it, and its value. -/
def setting? (argument : String) : Option (String × String) :=
  (cutString '=' argument).map fun (key, value) => (trimmed key, value)

theorem setting?_of_pair? {argument : String} {pair : String × String}
    (wellFormed : pair? argument = some pair) : setting? argument = some pair := by
  rw [pair?] at wellFormed
  rw [setting?]
  cases cut : cutString '=' argument with
  | none =>
      rw [cut] at wellFormed
      cases wellFormed
  | some sides =>
      rw [cut] at wellFormed
      dsimp only at wellFormed
      split at wellFormed
      · cases wellFormed
      · exact wellFormed

/-- Arguments that are all well formed are what they set. -/
theorem eq_filterMap_of_pairs {arguments : List String} {found : List (String × String)}
    (made : pairs arguments = .ok found) : found = arguments.filterMap setting? := by
  induction arguments generalizing found with
  | nil =>
      cases made
      rfl
  | cons argument rest inductionHypothesis =>
      rw [pairs] at made
      split at made
      case h_1 => cases made
      case h_2 pair wellFormed =>
        cases others : pairs rest with
        | error error =>
            rw [others] at made
            cases made
        | ok more =>
            rw [others] at made
            cases made
            rw [List.filterMap_cons_some (setting?_of_pair? wellFormed),
              inductionHypothesis others]

theorem toDict?_ofDict (members : Dict Json) : (Json.ofDict members).toDict? = some members :=
  congrArg some (Dict.ofList_entries members)

/-- Inputs that arguments were merged into: the arguments decide first. -/
theorem get?_of_merge {given : Option Json} {arguments : List String} {merged : Option Json}
    {inputs : Dict Json} (made : merge given arguments = .ok merged)
    (isObject : merged.elim (some ∅) Json.toDict? = some inputs) (name : String) :
    inputs.get? name =
      (((arguments.filterMap setting?).reverse.lookup name).map Json.string).or
        ((given.bind Json.toDict?).bind (·.get? name)) := by
  have outcome := outcome_mergeInto given arguments
  unfold merge at made
  generalize mergeInto given arguments = result at outcome made
  obtain ⟨result, after⟩ := result
  cases outcome with
  | nothing empty =>
      -- Without settings the inputs stay as they were read, whatever value they are.
      cases made
      simp [empty, get?_of_elim isObject]
  | refused bad => cases made
  | unfit given listed isHeld noObject => cases made
  | @laid found members laid _ listed wasObject has =>
      cases made
      have same : laid = inputs := by
        simpa [toDict?_ofDict] using isObject
      rw [← same, has, get?_of_elim wasObject, eq_filterMap_of_pairs listed]

end Inputs

/-! ## Environments -/

/-- The value of a variable that an environment declares: the one from outside under the name
that the declaration states, else the declared one. -/
def Environment.value? (environment : Environment) (outside : String → Option String)
    (name : String) : Option Json :=
  (environment.declarations.get? name).bind fun declared =>
    ((outside declared.name).map Json.string).or declared.fallback

/-- The outside names of the required variables that have no value, in the order of the
variables. -/
def Environment.lacking (environment : Environment) (outside : String → Option String) :
    List String :=
  (environment.declarations.values.filter fun declared =>
    declared.required && (outside declared.name).isNone && declared.fallback.isNone).map
      EnvironmentVariable.name

namespace Seed

variable {bundle : Bundle} {builtins : Scope} {chosen : Option String}
  {external : Dict String} {inputs : Dict Json}

/-- The environment of a bundle to use. -/
def environment? (bundle : Bundle) (chosen : Option String) : Option Environment :=
  (chosenEnvironment? bundle chosen).bind bundle.environments.get?

theorem variableValue?_eq (external : Dict String) (declared : EnvironmentVariable) :
    variableValue? external declared =
      ((external.get? declared.name).map Json.string).or declared.fallback := by
  rw [variableValue?]
  cases external.get? declared.name <;> rfl

theorem get?_values (environment : Environment) (name : String) :
    (values external environment).get? name = environment.value? external.get? name := by
  rw [Environment.value?, ← funext (variableValue?_eq external)]
  exact Dict.get?_ofList_filterMap environment.declarations (variableValue? external) name

theorem missing_eq_lacking (environment : Environment) :
    missing external environment = environment.lacking external.get? := by
  have isNone (declared : EnvironmentVariable) : (variableValue? external declared).isNone =
      ((external.get? declared.name).isNone && declared.fallback.isNone) := by
    rw [variableValue?]
    cases external.get? declared.name <;> rfl
  rw [missing, Environment.lacking]
  induction environment.declarations.values with
  | nil => rfl
  | cons declared rest inductionHypothesis =>
      rw [List.filterMap_cons, List.filter_cons, inductionHypothesis, isNone, ← Bool.and_assoc]
      cases declared.required && (external.get? declared.name).isNone && declared.fallback.isNone <;>
        rfl

/-! ## The seed -/

/-- The built-ins, at most one environment, and the inputs if there are any. -/
def layers (builtins : Scope) (environment : List Scope) (inputs : Dict Json) : ScopeStack :=
  ⟨[builtins] ++ environment ++
    if inputs.isEmpty then [] else [Scope.plain inputsId inputs]⟩

theorem lookup?_singleton (scope : Scope) (name : String) :
    (⟨[scope]⟩ : ScopeStack).lookup? name = scope.values.get? name := by
  rw [show (⟨[scope]⟩ : ScopeStack) = ScopeStack.empty.push scope from rfl,
    ScopeStack.lookup?_push]
  exact Option.or_none

theorem lookup?_layers (environment : List Scope) (name : String) :
    (layers builtins environment inputs).lookup? name =
      (inputs.get? name).or
        (((⟨environment⟩ : ScopeStack).lookup? name).or (builtins.values.get? name)) := by
  have ofInputs : (⟨if inputs.isEmpty then [] else [Scope.plain inputsId inputs]⟩ :
      ScopeStack).lookup? name = inputs.get? name := by
    split
    case isTrue nothing =>
      rw [Dict.get?, List.isEmpty_iff.1 nothing]
      rfl
    case isFalse => exact lookup?_singleton _ name
  rw [← ofInputs, ← lookup?_singleton builtins, ← ScopeStack.lookup?_extend,
    ← ScopeStack.lookup?_extend]
  rfl

/-- What comes of building a seed. -/
inductive Outcome (bundle : Bundle) (builtins : Scope) (chosen : Option String)
    (external : Dict String) (inputs : Dict Json) : Except SeedError ScopeStack → Prop where
  | bare (unselected : chosenEnvironment? bundle chosen = none) :
      Outcome bundle builtins chosen external inputs (.ok (layers builtins [] inputs))
  | unknown {name : String} (selected : chosenEnvironment? bundle chosen = some name)
      (undeclared : bundle.environments.get? name = none) :
      Outcome bundle builtins chosen external inputs (.error (.unknownEnvironment name))
  | lacking {name : String} {environment : Environment}
      (selected : chosenEnvironment? bundle chosen = some name)
      (declared : bundle.environments.get? name = some environment)
      (lacks : environment.lacking external.get? ≠ []) :
      Outcome bundle builtins chosen external inputs
        (.error (.missingRequired (environment.lacking external.get?)))
  | complete {name : String} {environment : Environment}
      (selected : chosenEnvironment? bundle chosen = some name)
      (declared : bundle.environments.get? name = some environment)
      (lacksNothing : environment.lacking external.get? = []) :
      Outcome bundle builtins chosen external inputs
        (.ok (layers builtins
          [Scope.plain ("environment:" ++ name) (values external environment)] inputs))

theorem outcome_build : Outcome bundle builtins chosen external inputs
    (build bundle builtins chosen external inputs) := by
  unfold build
  cases selected : chosenEnvironment? bundle chosen with
  | none => exact .bare selected
  | some name =>
      dsimp only
      rw [environmentScope]
      cases declared : bundle.environments.get? name with
      | none => exact .unknown selected declared
      | some environment =>
          dsimp only
          rw [missing_eq_lacking]
          cases lacks : environment.lacking external.get? with
          | nil => exact .complete selected declared lacks
          | cons first rest =>
              have something : environment.lacking external.get? ≠ [] :=
                lacks ▸ List.cons_ne_nil first rest
              have outcome : Outcome bundle builtins chosen external inputs _ :=
                .lacking selected declared something
              rwa [lacks] at outcome

/-- The inputs decide first, then the environment, then the built-ins. -/
theorem lookup?_of_build {stack : ScopeStack}
    (built : build bundle builtins chosen external inputs = .ok stack) (name : String) :
    stack.lookup? name =
      (inputs.get? name).or
        (((environment? bundle chosen).bind (·.value? external.get? name)).or
          (builtins.values.get? name)) := by
  have outcome := @outcome_build bundle builtins chosen external inputs
  rw [built] at outcome
  cases outcome with
  | bare unselected =>
      rw [lookup?_layers, environment?, unselected]
      rfl
  | complete selected declared lacksNothing =>
      rw [lookup?_layers, lookup?_singleton, environment?, selected, Option.bind_some, declared,
        Option.bind_some, ← get?_values]
      rfl

/-- The default environment is used only where it is declared. -/
theorem build_eq_unknown_iff {name : String} :
    build bundle builtins chosen external inputs = .error (.unknownEnvironment name) ↔
      chosen = some name ∧ bundle.environments.get? name = none := by
  have outcome := @outcome_build bundle builtins chosen external inputs
  generalize build bundle builtins chosen external inputs = result at outcome ⊢
  constructor
  · rintro rfl
    cases outcome with
    | unknown selected undeclared =>
        refine ⟨?_, undeclared⟩
        unfold chosenEnvironment? at selected
        split at selected
        case h_1 => exact selected
        case h_2 =>
          -- Without a choice only the default can be selected, and then it is declared.
          split at selected
          case isTrue isDeclared =>
            cases selected
            rw [Dict.contains, undeclared] at isDeclared
            cases isDeclared
          case isFalse => cases selected
  · rintro ⟨rfl, undeclared⟩
    cases outcome with
    | bare unselected => cases unselected
    | unknown selected _ => cases selected; rfl
    | lacking selected declared _ =>
        cases selected
        cases declared.symm.trans undeclared
    | complete selected declared _ =>
        cases selected
        cases declared.symm.trans undeclared

theorem build_eq_missing_iff {names : List String} :
    build bundle builtins chosen external inputs = .error (.missingRequired names) ↔
      names ≠ [] ∧ ∃ environment, environment? bundle chosen = some environment ∧
        environment.lacking external.get? = names := by
  have outcome := @outcome_build bundle builtins chosen external inputs
  generalize build bundle builtins chosen external inputs = result at outcome ⊢
  constructor
  · rintro rfl
    cases outcome with
    | lacking selected declared lacks =>
        exact ⟨lacks, _, by rw [environment?, selected, Option.bind_some, declared], rfl⟩
  · rintro ⟨some, environment, isChosen, rfl⟩
    cases outcome with
    | bare unselected =>
        rw [environment?, unselected] at isChosen
        cases isChosen
    | unknown selected undeclared =>
        rw [environment?, selected, Option.bind_some, undeclared] at isChosen
        cases isChosen
    | lacking selected declared lacks =>
        rw [environment?, selected, Option.bind_some, declared] at isChosen
        cases isChosen
        rfl
    | complete selected declared lacksNothing =>
        rw [environment?, selected, Option.bind_some, declared] at isChosen
        cases isChosen
        exact absurd lacksNothing some

end Seed

/-! ## The sources of a run -/

namespace Program

/-- What the variables of a run are made of: the settings, the inputs that were read, the lines
of the file of variables, the variables of the process and the built-ins. -/
structure Sources where
  settings : List String
  inputs : Option Json
  lines : List (List Char)
  process : Dict String
  builtins : Scope

namespace Sources

/-- The value of the last setting whose key is a name. -/
def setting? (given : Sources) (name : String) : Option String :=
  (given.settings.filterMap Inputs.setting?).reverse.lookup name

/-- The value that the object of inputs has for a name. -/
def input? (given : Sources) (name : String) : Option Json :=
  (given.inputs.bind Json.toDict?).bind (·.get? name)

/-- A variable from outside: what the last line for it gives, else the variable of the
process. -/
def outside? (given : Sources) (name : String) : Option String :=
  ((given.lines.filterMap EnvFile.entry?).reverse.lookup name).or (given.process.get? name)

/-- The value of a name: that of its last setting, else of the inputs, else of the environment
if it declares the name, else of the built-ins. -/
def value? (given : Sources) (environment : Option Environment) (name : String) : Option Json :=
  ((given.setting? name).map Json.string).or
    ((given.input? name).or
      ((environment.bind (·.value? given.outside? name)).or
        (given.builtins.values.get? name)))

end Sources

/-- The sources of a run, with the files read that its options name. -/
def sources (surroundings : Surroundings) (options : RunOptions) : Except Failure Sources := do
  let text ← options.variablesFile.mapM (readFile surroundings)
  let inputs ← options.inputsFile.mapM (readInputs surroundings)
  .ok ⟨options.settings, inputs, lines (text.getD "").toList, surroundings.environment,
    surroundings.builtins⟩

variable {surroundings : Surroundings} {bundle : Bundle} {options : RunOptions}
  {external : Dict String} {inputs : Dict Json}

theorem exists_text_of_callerVariables
    (made : callerVariables surroundings options = .ok external) :
    ∃ text, options.variablesFile.mapM (readFile surroundings) = .ok text ∧
      ∀ key, external.get? key =
        (((lines (text.getD "").toList).filterMap EnvFile.entry?).reverse.lookup key).or
          (surroundings.environment.get? key) := by
  unfold callerVariables at made
  cases file : options.variablesFile with
  | none =>
      rw [file] at made
      cases made
      exact ⟨none, rfl, fun key => rfl⟩
  | some path =>
      rw [file] at made
      obtain ⟨text, read, overlaid⟩ := except_bind_eq_ok_iff.1 made
      cases overlaid
      refine ⟨some text, by rw [Option.mapM_some, read]; rfl, fun key => ?_⟩
      rw [Dict.get?_overlay, EnvFile.parse, Dict.get?_ofList_eq_reverse]
      rfl

/-- No inputs, or the members of an object. -/
def asInputs : Option Json → Except Failure (Dict Json)
  | none => .ok ∅
  | some value =>
      match value.toDict? with
      | some inputs => .ok inputs
      | none => .error (unusable "inputs must be an object")

/-- The inputs that are made of those read and of settings. -/
def mergedInputs (value : Option Json) (settings : List String) :
    Except Failure (Dict Json) := do
  let merged ← (Inputs.merge value settings).mapError fun error => unusable error.message
  asInputs merged

theorem exists_value_of_givenInputs (made : givenInputs surroundings options = .ok inputs) :
    ∃ value, options.inputsFile.mapM (readInputs surroundings) = .ok value ∧
      mergedInputs value options.settings = .ok inputs := by
  unfold givenInputs at made
  cases file : options.inputsFile with
  | none =>
      rw [file] at made
      exact ⟨none, rfl, made⟩
  | some path =>
      rw [file] at made
      obtain ⟨value, read, merged⟩ := except_bind_eq_ok_iff.1 made
      exact ⟨value, by rw [Option.mapM_some]; exact read, merged⟩

theorem elim_of_asInputs {merged : Option Json} (made : asInputs merged = .ok inputs) :
    merged.elim (some ∅) Json.toDict? = some inputs := by
  cases merged with
  | none =>
      cases made
      rfl
  | some value =>
      rw [asInputs] at made
      split at made
      case h_1 found isObject =>
        cases made
        exact isObject
      case h_2 => cases made

theorem get?_of_mergedInputs {value : Option Json} {settings : List String}
    (made : mergedInputs value settings = .ok inputs) (name : String) :
    inputs.get? name =
      (((settings.filterMap Inputs.setting?).reverse.lookup name).map Json.string).or
        ((value.bind Json.toDict?).bind (·.get? name)) := by
  rw [mergedInputs, except_bind_eq_ok_iff] at made
  obtain ⟨merged, merges, made⟩ := made
  exact Inputs.get?_of_merge (mapError_eq_ok_iff.1 merges) (elim_of_asInputs made) name

/-- Where the outside variables and the inputs are given, their sources are read. -/
theorem exists_sources (called : callerVariables surroundings options = .ok external)
    (made : givenInputs surroundings options = .ok inputs) :
    ∃ given, sources surroundings options = .ok given ∧
      given.builtins = surroundings.builtins ∧ given.outside? = external.get? ∧
      ∀ name, inputs.get? name =
        ((given.setting? name).map Json.string).or (given.input? name) := by
  obtain ⟨text, readText, outside⟩ := exists_text_of_callerVariables called
  obtain ⟨value, readValue, merged⟩ := exists_value_of_givenInputs made
  refine ⟨⟨options.settings, value, lines (text.getD "").toList, surroundings.environment,
    surroundings.builtins⟩, ?_, rfl, funext fun key => (outside key).symm,
    get?_of_mergedInputs merged⟩
  rw [sources, readText, readValue]
  rfl

/-- A seed is built of the outside variables and the inputs. -/
theorem seed_eq (called : callerVariables surroundings options = .ok external)
    (made : givenInputs surroundings options = .ok inputs) :
    seed surroundings bundle options =
      (Seed.build bundle surroundings.builtins options.environment external inputs).mapError
        fun error => unusable error.message := by
  rw [seed, called, made]
  rfl

theorem exists_of_seed {stack : ScopeStack} (seeded : seed surroundings bundle options = .ok stack) :
    ∃ external inputs, callerVariables surroundings options = .ok external ∧
      givenInputs surroundings options = .ok inputs ∧
      Seed.build bundle surroundings.builtins options.environment external inputs = .ok stack := by
  simp only [seed, except_bind_eq_ok_iff, mapError_eq_ok_iff] at seeded
  obtain ⟨external, called, inputs, made, built⟩ := seeded
  exact ⟨external, inputs, called, made, built⟩

/-- In a seed a name has the value that the sources give it in their order of precedence. A
seed whose outside variables and inputs are given is not made for two reasons: an environment is
named that is not declared, or required variables of the environment lack a value, and then the
error tells the outside names of all of them. -/
theorem seed_follows_precedence (surroundings : Surroundings) (bundle : Bundle)
    (options : RunOptions) :
    (∀ stack, seed surroundings bundle options = .ok stack →
      ∃ given, sources surroundings options = .ok given ∧ ∀ name,
        stack.lookup? name =
          given.value? (Seed.environment? bundle options.environment) name) ∧
    ∀ external inputs, callerVariables surroundings options = .ok external →
      givenInputs surroundings options = .ok inputs →
      ∃ given built, sources surroundings options = .ok given ∧
        Seed.build bundle surroundings.builtins options.environment external inputs = built ∧
        seed surroundings bundle options =
          built.mapError (fun error => unusable error.message) ∧
        (∀ name, built = .error (.unknownEnvironment name) ↔
          options.environment = some name ∧ bundle.environments.get? name = none) ∧
        ∀ names, built = .error (.missingRequired names) ↔
          names ≠ [] ∧ ∃ environment,
            Seed.environment? bundle options.environment = some environment ∧
            environment.lacking given.outside? = names := by
  constructor
  · intro stack seeded
    obtain ⟨external, inputs, called, made, built⟩ := exists_of_seed seeded
    obtain ⟨given, read, builtins, outside, has⟩ := exists_sources called made
    refine ⟨given, read, fun name => ?_⟩
    rw [Seed.lookup?_of_build built, has, Sources.value?, outside, builtins, Option.or_assoc]
  · intro external inputs called made
    obtain ⟨given, read, -, outside, -⟩ := exists_sources called made
    refine ⟨given, _, read, rfl, seed_eq called made,
      fun name => Seed.build_eq_unknown_iff, fun names => ?_⟩
    rw [outside]
    exact Seed.build_eq_missing_iff

/-- A bundle whose default environment has a token that is needed, a region that has a value of
its own, and a tag that has none. -/
def regionBundle : Bundle :=
  { Bundle.empty with
    environments := Dict.ofList [("default", ⟨Dict.ofList
      [("region", ⟨"REGION", true, some (.string "eu")⟩), ("tag", ⟨"TAG", false, none⟩),
        ("token", ⟨"TOKEN", true, none⟩)]⟩)] }

/-- A process with a built-in tag and a file that sets the token twice. -/
def fileSurroundings : Surroundings :=
  { read := fun path =>
      if path = "vars" then .ok "TOKEN=first\n# again\nTOKEN = 'second'\n" else .error .missing
    environment := Dict.ofList [("HOST", "h")]
    builtins := ⟨"functions", Dict.ofList [("tag", .string "built in")], []⟩
    makeClient := fun _ => .error "offline" }

def settingsRun : RunOptions :=
  ⟨none, some "vars", none, ["limit=1", " limit =2=3", "region=us"], false, 200, "",
    30000, 10485760, .continueStages⟩

/-- The last setting and the last line win, and a name without a value outside falls through to
the built-ins; without the file the token is lacking. -/
theorem settingsRun_values :
    (∃ stack, seed fileSurroundings regionBundle settingsRun = .ok stack ∧
      stack.lookup? "limit" = some (.string "2=3") ∧
      stack.lookup? "region" = some (.string "us") ∧
      stack.lookup? "token" = some (.string "second") ∧
      stack.lookup? "tag" = some (.string "built in")) ∧
    seed fileSurroundings regionBundle { settingsRun with variablesFile := none } =
      .error (unusable "missing required environment variables: TOKEN") := by
  constructor
  · have seeds : (seed fileSurroundings regionBundle settingsRun).isOk := by decide +kernel
    cases seeded : seed fileSurroundings regionBundle settingsRun with
    | error failure =>
        rw [seeded] at seeds
        cases seeds
    | ok stack =>
        obtain ⟨given, read, follows⟩ :=
          (seed_follows_precedence fileSurroundings regionBundle settingsRun).1 stack seeded
        cases read
        refine ⟨stack, rfl, ?_⟩
        simp only [follows]
        decide +kernel
  · obtain ⟨given, built, read, -, seeded, -, missing⟩ :=
      (seed_follows_precedence fileSurroundings regionBundle
        { settingsRun with variablesFile := none }).2 fileSurroundings.environment
        (Dict.ofList [("limit", .string "2=3"), ("region", .string "us")]) rfl
        rfl
    cases read
    have lacks := (missing ["TOKEN"]).2 ⟨by decide, _, rfl, by decide +kernel⟩
    rw [seeded, lacks]
    rfl

end Program

end RequestFlow
