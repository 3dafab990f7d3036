import RequestFlow.Proofs.Run.Exchange
import RequestFlow.Proofs.Run.UnusedVariables

/-!
Contract: what a stage that points at an acquisition stage does, compared with the stage it
points at.

Owns: the trace of a stage told of another one; the proof that a pointer with the variables
of the stage has the trace of the stage; and the proof that a pointer without variables
still sends the same request and sets the same variables, when the request does not use the
variables of the stage.

A pointer leads to the content of a stage. The variables that a stage sets for its request
belong to the stage and not to its content, so that they are not found through a pointer.
-/

namespace RequestFlow

open Execution

/-- A pointer is accepted for what the stage that it points at resolves to. -/
theorem Bundle.resolve_pointed {bundle : Bundle} {id : String} {method : Option String}
    {position : Nat} {stage : Stage} {resolved : ResolvedStage}
    (accepted : bundle.resolveTarget (.credential id method position) = .ok resolved)
    (points : bundle.acquisitionStage id method position = .ok stage) :
    bundle.resolve stage = .ok resolved := by
  simp only [Bundle.resolveTarget, points, Bind.bind, Except.bind] at accepted
  cases stage with
  | inline content environment => exact accepted
  | reference target environment =>
      cases target with
      | operation | request => exact accepted
      | credential => cases accepted

/-- A scope under another name. -/
def Scope.named (label : String) (scope : Scope) : Scope := { scope with id := label }

namespace Execution

/-! ## Traces under other names -/

/-- An attempt in a stage of another name: the scope that rules set has that name. -/
def Attempt.named (label : String) : Attempt → Attempt
  | .answered request operationId response assigned failures =>
      .answered request operationId response (assigned.map (Scope.named label)) failures
  | made => made

/-- The trace of a stage, told of another stage. -/
def StageTrace.toldOf (pointer : Stage) : StageTrace → StageTrace
  | .unresolved _ error => .unresolved pointer error
  | .resolved _ auth request made => .resolved pointer auth request (made.named pointer.label)

/-- What a stage with a trace comes to when it starts in a session. -/
def StageTrace.resultFrom (session : Session) (trace : StageTrace) : StageStatus × Session :=
  (trace.status, session.perform trace.acts)

/-- The scope that rules set. -/
def Attempt.assigned? : Attempt → Option Scope
  | .unprepared _ | .unanswered .. => none
  | .answered _ _ _ assigned _ => assigned

theorem Attempt.scopes_eq (made : Attempt) :
    made.acts.filterMap Act.scope? = made.assigned?.toList := by
  cases made with
  | unprepared | unanswered => rfl
  | answered request operationId response assigned failures =>
      have silent : (failures.map fun failure =>
          Act.tell (failureEvent failure)).filterMap Act.scope? = [] := by
        rw [List.filterMap_map, List.filterMap_eq_nil_iff]
        exact fun _ _ => rfl
      rw [acts, List.filterMap_append, List.filterMap_append, silent]
      cases assigned <;> rfl

section Named

variable (label : String) (made : Attempt)

theorem Attempt.status_named : (made.named label).status = made.status := by
  cases made <;> rfl

theorem Attempt.sent?_named : (made.named label).sent? = made.sent? := by
  cases made <;> rfl

theorem Attempt.assigned?_named :
    (made.named label).assigned? = made.assigned?.map (Scope.named label) := by
  cases made <;> rfl

end Named

theorem scope?_named (assigned : Assigned) (id label : String) :
    (assigned.scope? id).map (Scope.named label) = assigned.scope? label := by
  unfold Assigned.scope?
  split <;> rfl

/-- The name of a stage decides on the name of the scope that rules set, and on no more. -/
theorem attempt_named (setting : Setting) (sent : List HttpRequest) (stage pointer : Stage)
    (resolved : ResolvedStage) (authorization : Authorization) (template : RequestTemplate) :
    attempt setting sent pointer resolved authorization template =
      (attempt setting sent stage resolved authorization template).named pointer.label := by
  unfold attempt
  cases authorization.error with
  | some error => rfl
  | none =>
      cases prepareRequest template authorization.credentials with
      | error error => rfl
      | ok ready =>
          cases reply : setting.transport sent ready with
          | failure error => simp only [reply, Attempt.named]
          | response response => simp only [reply, Attempt.named, scope?_named]

/-! ## Stages with one content -/

/-- The trace of a stage with a content, after its entries were gone through. -/
def traceWith (setting : Setting) (session : Session) (resolved : ResolvedStage)
    (auth : List AuthTrace) (authorization : Authorization) (stage : Stage) : StageTrace :=
  let authorized := session.perform (authActs auth)
  let request := substituteStage authorized.stack stage resolved.content
  .resolved stage auth request
    (attempt setting authorized.sent stage resolved authorization request.template)

section OneContent

variable {setting : Setting} {acquirer : Acquirer} {session : Session}
  {resolved : ResolvedStage} {auth : List AuthTrace} {authorization : Authorization}
  {stage pointer : Stage}

theorem runAuthorized_eq_resultFrom :
    runAuthorized setting stage resolved authorization (session.perform (authActs auth)) =
      (traceWith setting session resolved auth authorization stage).resultFrom session := by
  rw [runAuthorized_eq_perform, StageTrace.resultFrom, StageTrace.acts_eq,
    Session.perform_append]
  rfl

/-- Of two stages with one content either both have a result or none has. The entries of the
content are gone through alike. -/
theorem runStage_of_content {related : StageStatus × Session → StageStatus × Session → Prop}
    (traced : acquirer.Traced setting)
    (found : setting.bundle.resolve stage = .ok resolved)
    (pointedFound : setting.bundle.resolve pointer = .ok resolved)
    (each : ∀ auth authorization,
      EntriesRun setting session resolved.content.auth auth authorization →
        related
          ((traceWith setting session resolved auth authorization pointer).resultFrom session)
          ((traceWith setting session resolved auth authorization stage).resultFrom session)) :
    Option.Rel related (runStage setting acquirer pointer session)
      (runStage setting acquirer stage session) := by
  simp only [runStage, found, pointedFound]
  cases ran : authorize acquirer resolved.content.auth session with
  | none => exact .none
  | some result =>
      obtain ⟨authorization, authorized⟩ := result
      obtain ⟨auth, entries, rfl⟩ := authorize_traced traced ran
      have results := each auth authorization entries
      simp only [← runAuthorized_eq_resultFrom] at results
      exact .some results

theorem traceWith_runs (found : setting.bundle.resolve stage = .ok resolved)
    (entries : EntriesRun setting session resolved.content.auth auth authorization) :
    StageRuns setting session stage
      (traceWith setting session resolved auth authorization stage) :=
  .resolved found entries rfl rfl

/-- Two stages with one content and the same variables have the same trace. -/
theorem traceWith_toldOf (sameEnvironment : pointer.environment = stage.environment) :
    traceWith setting session resolved auth authorization pointer =
      (traceWith setting session resolved auth authorization stage).toldOf pointer := by
  simp only [traceWith, substituteStage, sameEnvironment, StageTrace.toldOf]
  rw [attempt_named setting _ stage pointer]

/-- Two stages whose requests are filled alike differ in what is told of the filling. -/
theorem traceWith_of_template
    (sameTemplate : (substituteStage (session.perform (authActs auth)).stack pointer
        resolved.content).template =
      (substituteStage (session.perform (authActs auth)).stack stage
        resolved.content).template) :
    ∃ request made, traceWith setting session resolved auth authorization stage =
        .resolved stage auth request made ∧
      ∃ pointedRequest, traceWith setting session resolved auth authorization pointer =
        .resolved pointer auth pointedRequest (made.named pointer.label) := by
  let authorized := session.perform (authActs auth)
  refine ⟨_, _, rfl, substituteStage authorized.stack pointer resolved.content, ?_⟩
  simp only [traceWith, sameTemplate, authorized]
  rw [attempt_named setting _ stage pointer]

end OneContent

/-! ## Variables that the request does not use -/

theorem lookup?_push_of_notMem {stack : ScopeStack} {id name : String} {values : Dict Json}
    (unset : name ∉ values.keys) :
    (stack.push (.plain id values)).lookup? name = stack.lookup? name := by
  have missing : values.get? name = none := by
    simpa [Dict.mem_keys_iff] using unset
  rw [ScopeStack.lookup?_push, show (Scope.plain id values).values.get? name = none from missing,
    Option.none_or]

theorem keys_values (stack : ScopeStack) (seen : SeenTokens) (dict : Dict Json) :
    (Substitution.values stack seen dict).value.keys = dict.keys :=
  Substitution.jsonMembers_keys stack seen dict.entries

/-- The variables of a stage do not change a request that does not use them. -/
theorem template_of_unused {stack : ScopeStack} {stage : Stage} {content : StageContent}
    (unused : ∀ name ∈ stage.environment.keys, name ∉ content.request.tokens) :
    (substituteStage stack stage content).template =
      (Substitution.request stack .none content.request).value := by
  simp only [substituteStage]
  split
  · rfl
  · have agree : (stack.push (.plain stageScopeId
        (Substitution.values stack .none stage.environment).value)).AgreeOn stack
        content.request.tokens := by
      intro name occurs
      refine lookup?_push_of_notMem fun set => unused name ?_ occurs
      rwa [keys_values] at set
    rw [Substitution.request_congr agree]

theorem lookup?_named (before : List Scope) (assigned : Option Scope) (label name : String) :
    (⟨before ++ (assigned.map (Scope.named label)).toList⟩ : ScopeStack).lookup? name =
      (⟨before ++ assigned.toList⟩ : ScopeStack).lookup? name := by
  cases assigned with
  | none => rfl
  | some scope =>
      cases present : scope.values.get? name <;>
        simp [ScopeStack.lookup?, ScopeStack.lookupScope?, Scope.named, present]

/-- Two results with which the same requests were sent and the same variables are set. A
scope that was set last may have two names. -/
structure SameEffects (label : String) (pointed direct : StageStatus × Session) : Prop where
  status : pointed.1 = direct.1
  sent : pointed.2.sent = direct.2.sent
  stack : ∃ before assigned, direct.2.stack.scopes = before ++ Option.toList assigned ∧
    pointed.2.stack.scopes = before ++ (assigned.map (Scope.named label)).toList
  bindings : ∀ name, pointed.2.stack.lookup? name = direct.2.stack.lookup? name

section Resolved

variable (session : Session) (stage : Stage) (auth : List AuthTrace) (request : StageRequest)
  (made : Attempt)

theorem scopes_resolved :
    (session.perform (StageTrace.resolved stage auth request made).acts).stack.scopes =
      (session.perform (authActs auth)).stack.scopes ++ made.assigned?.toList := by
  rw [StageTrace.acts_eq, Session.perform_append, Session.scopes_perform, ← made.scopes_eq]
  rfl

theorem sent_resolved :
    (session.perform (StageTrace.resolved stage auth request made).acts).sent =
      (session.perform (authActs auth)).sent ++ made.sent?.toList := by
  rw [StageTrace.acts_eq, Session.perform_append, Session.sent_perform, ← made.requests_eq]
  rfl

/-- What a stage does depends on its name only in a name, and on its request only through
what came of it. -/
theorem sameEffects_named (pointer : Stage) (pointedRequest : StageRequest) (label : String) :
    SameEffects label
      ((StageTrace.resolved pointer auth pointedRequest (made.named label)).resultFrom session)
      ((StageTrace.resolved stage auth request made).resultFrom session) := by
  have stack := scopes_resolved session stage auth request made
  have pointedStack := scopes_resolved session pointer auth pointedRequest (made.named label)
  have sent := sent_resolved session stage auth request made
  have pointedSent := sent_resolved session pointer auth pointedRequest (made.named label)
  rw [Attempt.assigned?_named] at pointedStack
  rw [Attempt.sent?_named, ← sent] at pointedSent
  refine ⟨Attempt.status_named label made, pointedSent, ⟨_, _, stack, pointedStack⟩,
    fun name => ?_⟩
  have same := lookup?_named (session.perform (authActs auth)).stack.scopes made.assigned?
    label name
  rwa [← stack, ← pointedStack] at same

end Resolved

/-! ## Pointers at acquisition stages -/

/-- Two results for which the entries were gone through alike. -/
def SameCredentials (setting : Setting) (session : Session) (pointer stage : Stage)
    (pointed direct : StageStatus × Session) : Prop :=
  ∃ trace pointedTrace, StageRuns setting session stage trace ∧
    StageRuns setting session pointer pointedTrace ∧ pointedTrace.auth = trace.auth ∧
    direct = trace.resultFrom session ∧ pointed = pointedTrace.resultFrom session

/-- Two results of one trace, of which the first one is told of a pointer at the stage. -/
def SameTrace (setting : Setting) (session : Session) (pointer stage : Stage)
    (pointed direct : StageStatus × Session) : Prop :=
  ∃ trace, StageRuns setting session stage trace ∧ direct = trace.resultFrom session ∧
    pointed = (trace.toldOf pointer).resultFrom session

section Pointers

variable {setting : Setting} {acquirer : Acquirer} {session : Session}
  {resolved : ResolvedStage} {stage : Stage} {target : Target}
  (traced : acquirer.Traced setting)
  (found : setting.bundle.resolve stage = .ok resolved)
  (accepted : setting.bundle.resolveTarget target = .ok resolved)

include traced found accepted

/-- A pointer with the variables of the stage has the trace of the stage. -/
theorem runStage_pointer_sameTrace :
    Option.Rel (SameTrace setting session (.reference target stage.environment) stage)
      (runStage setting acquirer (.reference target stage.environment) session)
      (runStage setting acquirer stage session) := by
  refine runStage_of_content traced found accepted fun auth authorization entries => ?_
  exact ⟨_, traceWith_runs found entries, rfl,
    congrArg (StageTrace.resultFrom session) (traceWith_toldOf rfl)⟩

/-- A pointer without variables acquires the credentials of the stage, and does what the
stage does unless the request uses the variables of the stage. -/
theorem runStage_pointer_sameEffects :
    Option.Rel (fun pointed direct =>
        SameCredentials setting session (.reference target ∅) stage pointed direct ∧
        ((∀ name ∈ stage.environment.keys, name ∉ resolved.content.request.tokens) →
          SameEffects target.label pointed direct))
      (runStage setting acquirer (.reference target ∅) session)
      (runStage setting acquirer stage session) := by
  refine runStage_of_content traced found accepted fun auth authorization entries => ?_
  refine ⟨⟨_, _, traceWith_runs found entries, traceWith_runs accepted entries, rfl, rfl, rfl⟩,
    fun unused => ?_⟩
  have sameTemplate : (substituteStage (session.perform (authActs auth)).stack
      (.reference target ∅) resolved.content).template =
        (substituteStage (session.perform (authActs auth)).stack stage
          resolved.content).template :=
    (template_of_unused (by rintro _ ⟨⟩)).trans (template_of_unused unused).symm
  obtain ⟨request, made, direct, pointedRequest, pointed⟩ := traceWith_of_template sameTemplate
  rw [direct, pointed]
  exact sameEffects_named ..

end Pointers

end Execution

/-- A pointer at an acquisition stage resolves to what the stage resolves to. When it has
the variables of the stage, it does all that the stage does, under its own name. When it has
none, it still acquires the same credentials, and it sends the same request and sets the same
variables unless the request uses a variable of the stage. -/
theorem acquisition_stage_pointed_at {setting : Setting} {id : String} {method : Option String}
    {position : Nat} {stage : Stage} {resolved : ResolvedStage}
    (accepted : setting.bundle.resolveTarget (.credential id method position) = .ok resolved)
    (points : setting.bundle.acquisitionStage id method position = .ok stage)
    (depth : Nat) (session : Session) :
    let pointer := Stage.reference (.credential id method position)
    setting.bundle.resolve stage = .ok resolved ∧
    Option.Rel (SameTrace setting session (pointer stage.environment) stage)
      (runStage setting (acquireWithin setting depth) (pointer stage.environment) session)
      (runStage setting (acquireWithin setting depth) stage session) ∧
    Option.Rel (fun pointed direct =>
        SameCredentials setting session (pointer ∅) stage pointed direct ∧
        ((∀ name ∈ stage.environment.keys, name ∉ resolved.content.request.tokens) →
          SameEffects (pointer ∅).label pointed direct))
      (runStage setting (acquireWithin setting depth) (pointer ∅) session)
      (runStage setting (acquireWithin setting depth) stage session) := by
  have found := Bundle.resolve_pointed accepted points
  have traced := acquireWithin_traced setting depth
  exact ⟨found, runStage_pointer_sameTrace traced found accepted,
    runStage_pointer_sameEffects traced found accepted⟩

/-! ## A login with a variable of its own -/

/-- A stage with a variable, and a request at a URL. -/
def scopedStage (url : String) : Stage :=
  .inline ⟨none, ⟨"GET", url, .none, none⟩, [], none, ∅⟩ (Dict.ofList [("step", .string "1")])

/-- A login of two stages with the variable. The first one uses it. -/
def scopedLogin : Bundle :=
  { Bundle.empty with
    credentialGroups := [Dict.ofList [("login",
      ⟨.bearer, none, none, "main", Dict.ofList [("main", ⟨"secret",
        [scopedStage "http://[::1]/\x7b\x7bstep\x7d\x7d", scopedStage "http://[::1]/"]⟩)]⟩)]] }

def scopedSetting : Setting := ⟨scopedLogin, .constant (.ofStatus 200), .standard⟩

/-- A stage of the login, run by itself or through a pointer. -/
def runScoped (stage : Stage) : Option (StageStatus × Session) :=
  runStage scopedSetting (acquireWithin scopedSetting 1) stage (.start .empty)

/-- A pointer at the first stage sends another request than the stage, which has the value
of the variable in its URL. -/
theorem scopedLogin_sends_apart :
    scopedLogin.validate = .ok () ∧
    scopedLogin.acquisitionStage "login" none 0 =
      .ok (scopedStage "http://[::1]/\x7b\x7bstep\x7d\x7d") ∧
    (∃ resolved, scopedLogin.resolveTarget (.credential "login" none 0) = .ok resolved) ∧
    (runScoped (.reference (.credential "login" none 0) ∅)).map (fun result => result.2.sent) ≠
      (runScoped (scopedStage "http://[::1]/\x7b\x7bstep\x7d\x7d")).map
        (fun result => result.2.sent) := by
  refine ⟨by decide +kernel, rfl, ⟨_, rfl⟩, by decide +kernel⟩

/-- The second stage does not use its variable, so that a pointer at it does the same. -/
theorem scopedLogin_pointed_at :
    scopedLogin.acquisitionStage "login" none 1 = .ok (scopedStage "http://[::1]/") ∧
    (scopedStage "http://[::1]/").environment.keys = ["step"] ∧
    ∃ pointed direct, runScoped (.reference (.credential "login" none 1) ∅) = some pointed ∧
      runScoped (scopedStage "http://[::1]/") = some direct ∧ pointed.2.sent.length = 1 ∧
      SameEffects (Target.credential "login" none 1).label pointed direct := by
  obtain ⟨-, -, rel⟩ := acquisition_stage_pointed_at
    (show scopedSetting.bundle.resolveTarget (.credential "login" none 1) = .ok _ from rfl)
    (show scopedSetting.bundle.acquisitionStage "login" none 1 = .ok _ from rfl)
    1 (.start .empty)
  obtain ⟨pointed, pointedRan, sentOnce⟩ := Option.map_eq_some_iff.1
    (show (runScoped (.reference (.credential "login" none 1) ∅)).map
      (fun result => result.2.sent.length) = some 1 by decide +kernel)
  rw [show runStage _ _ _ _ = some pointed from pointedRan] at rel
  obtain ⟨direct, directRan, -, same⟩ := eq_some_of_rel rel
  exact ⟨rfl, rfl, pointed, direct, pointedRan, directRan, sentOnce, same (by decide +kernel)⟩

end RequestFlow
