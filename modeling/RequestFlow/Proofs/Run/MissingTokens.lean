import RequestFlow.Proofs.Run.Exchange
import RequestFlow.Proofs.Variable.Reporting

/-!
Contract: which of the tokens that a request is sent with are reported as missing.

Owns: the templates that a prepared request is made of, each with the stack that it is filled
in on; the proof that a stage reports the names that its own two templates leave open, and no
others; and a run that sends a credential with an open token and reports nothing.

A credential is filled in on the copy of the stack that its acquisition works on. Only its text
and the scopes of the copy are handed over, so the names that it leaves open are reported if
the stage itself leaves them open too.
-/

namespace RequestFlow

/-! ## Open names -/

/-- A template to be filled in: the names of its tokens, and the stack that has their values. -/
structure Filling where
  stack : ScopeStack
  names : List String

/-- The template has a token of this name, and there is no value for it. -/
def Filling.LeavesOpen (filling : Filling) (name : String) : Prop :=
  name ∈ filling.names ∧ filling.stack.lookup? name = none

/-- A report on templates of a stage's own, beside which it uses those of credentials. -/
structure MissingReported (own credentials : List Filling) (missing : List String) : Prop where
  /-- The names reported are those that the own templates leave open. -/
  reported : ∀ name, name ∈ missing ↔ ∃ filling ∈ own, filling.LeavesOpen name
  /-- An empty report tells that the own templates have all their values. -/
  nothing : missing = [] ↔ ∀ filling ∈ own, ∀ name, ¬ filling.LeavesOpen name
  /-- The report is on all templates just if no credential leaves another name open. -/
  everything : (∀ filling ∈ own ++ credentials, ∀ name,
      filling.LeavesOpen name → name ∈ missing) ↔
    ∀ filling ∈ credentials, ∀ name, filling.LeavesOpen name →
      ∃ other ∈ own, other.LeavesOpen name

theorem missingReported_of_mem_iff {own : List Filling} {missing : List String}
    (reported : ∀ name, name ∈ missing ↔ ∃ filling ∈ own, filling.LeavesOpen name)
    (credentials : List Filling) : MissingReported own credentials missing where
  reported := reported
  nothing := by
    rw [List.eq_nil_iff_forall_not_mem]
    constructor
    · intro nothing filling member name leftOpen
      exact nothing name ((reported name).2 ⟨filling, member, leftOpen⟩)
    · intro allFilled name member
      obtain ⟨filling, among, leftOpen⟩ := (reported name).1 member
      exact allFilled filling among name leftOpen
  everything := by
    rw [List.forall_mem_append]
    constructor
    · rintro ⟨-, ofCredentials⟩ filling member name leftOpen
      exact (reported name).1 (ofCredentials filling member name leftOpen)
    · intro alsoOwn
      constructor
      · intro filling member name leftOpen
        exact (reported name).2 ⟨filling, member, leftOpen⟩
      · intro filling member name leftOpen
        exact (reported name).2 (alsoOwn filling member name leftOpen)

namespace Execution

/-! ## A stage's own templates -/

/-- What a stage fills in itself: the values of its variables on the stack after its
acquisitions, and then its request on the stack with these variables. -/
def ownFillings (stack : ScopeStack) (stage : Stage) (content : StageContent) : List Filling :=
  [⟨stack, stage.environment.tokens⟩,
    ⟨(substituteStage stack stage content).stack, content.request.tokens⟩]

theorem mem_missing_substituteStage {stack : ScopeStack} {stage : Stage}
    {content : StageContent} {name : String} :
    name ∈ (substituteStage stack stage content).seen.missing ↔
      ∃ filling ∈ ownFillings stack stage content, filling.LeavesOpen name := by
  have seen : (substituteStage stack stage content).seen.missing = SeenTokens.addNames
      (Substitution.values stack .none stage.environment).seen.missing
      (Substitution.request (substituteStage stack stage content).stack .none
        content.request).seen.missing := rfl
  rw [seen, SeenTokens.mem_addNames, Substitution.values_seen, Substitution.request_seen]
  simp only [ownFillings, List.mem_cons, List.not_mem_nil, or_false, exists_eq_or_imp,
    exists_eq_left, Filling.LeavesOpen, SeenTokens.mem_missing_recordAll_none]

/-! ## The templates of credentials -/

/-- A credential to be filled in, and the stack at the end of its acquisition. -/
structure CredentialSource where
  stack : ScopeStack
  requirement : Requirement

namespace CredentialSource

def acquired (source : CredentialSource) : AcquiredCredential :=
  fillCredential source.stack source.requirement

def filling (source : CredentialSource) : Filling :=
  ⟨source.stack, Template.tokensOf source.requirement.method.credential⟩

end CredentialSource

/-- What an acquisition fills in, unless its entry is not met. -/
def AuthTrace.source? (bundle : Bundle) (session : Session) : AuthTrace → Option CredentialSource
  | .unmet _ => none
  | .direct entry _ => (bundle.requirement entry).toOption.map (⟨session.stack, ·⟩)
  | .staged entry playbook _ =>
      (bundle.requirement entry).toOption.map
        (⟨((session.tell (.authStarted entry)).perform playbook.acts).stack, ·⟩)

/-- What acquisitions fill in that follow one another. -/
def credentialSources (bundle : Bundle) (session : Session) :
    List AuthTrace → List CredentialSource
  | [] => []
  | first :: rest =>
      (first.source? bundle session).toList ++
        credentialSources bundle (session.perform first.acts) rest

variable {setting : Setting} {session : Session}

theorem EntryRuns.source {entry : String} {trace : AuthTrace}
    {result : Except AuthError AcquiredCredential}
    (runs : EntryRuns setting session entry trace result) :
    result.toOption = (trace.source? setting.bundle session).map CredentialSource.acquired := by
  cases runs with
  | unmet failure => rfl
  | direct met bare filled =>
      rw [AuthTrace.source?, met, filled]
      rfl
  | staged met staged runs filled =>
      rw [AuthTrace.source?, met, filled]
      rfl

theorem credentials_cons (first : Except AuthError AcquiredCredential) (rest : Authorization) :
    (rest.cons first).credentials = first.toOption.toList ++ rest.credentials := by
  cases first <;> rfl

theorem EntriesRun.credentials_eq {entries : List String} {traces : List AuthTrace}
    {authorization : Authorization}
    (runs : EntriesRun setting session entries traces authorization) :
    authorization.credentials =
      (credentialSources setting.bundle session traces).map CredentialSource.acquired := by
  induction traces generalizing session entries authorization with
  | nil =>
      cases runs
      rfl
  | cons trace rest inductionHypothesis =>
      cases runs with
      | next first later =>
          rw [credentials_cons, first.source, inductionHypothesis later, credentialSources,
            List.map_append, Option.toList_map]

/-! ## Prepared requests -/

/-- What the prepared request of a stage is made of: the request of its content, filled in by
the stage, and the credentials of its entries, all of which are met. -/
structure Prepares (setting : Setting) (session : Session) (stage : Stage)
    (auth : List AuthTrace) (request : StageRequest) (resolved : ResolvedStage)
    (ready : HttpRequest) : Prop where
  found : setting.bundle.resolve stage = .ok resolved
  entries : EntriesRun setting session resolved.content.auth auth
    ⟨(credentialSources setting.bundle session auth).map CredentialSource.acquired, none⟩
  filled : request =
    substituteStage (session.perform (authActs auth)).stack stage resolved.content
  placed : prepareRequest request.template
    ((credentialSources setting.bundle session auth).map CredentialSource.acquired) = .ok ready

/-- A request is told of as prepared only by a stage whose entries are all met, before
anything else. -/
theorem attempt_prepared {sent : List HttpRequest} {stage : Stage} {resolved : ResolvedStage}
    {authorization : Authorization} {template : RequestTemplate} {ready : HttpRequest}
    {operationId : Option String}
    (told : .requestPrepared ready operationId ∈
      eventsOf (attempt setting sent stage resolved authorization template).acts) :
    authorization.error = none ∧
      prepareRequest template authorization.credentials = .ok ready ∧
      ∃ later, eventsOf (attempt setting sent stage resolved authorization template).acts =
        .requestPrepared ready operationId :: later := by
  unfold attempt at told ⊢
  cases authorized : authorization.error with
  | some error => simp [authorized, Attempt.acts] at told
  | none =>
      simp only [authorized] at told ⊢
      cases prepared : prepareRequest template authorization.credentials with
      | error error => simp [prepared, Attempt.acts] at told
      | ok other =>
          simp only [prepared] at told ⊢
          cases reply : setting.transport sent other with
          | failure error =>
              simp only [reply] at told ⊢
              have same : ready = other ∧ operationId = resolved.operationId := by
                simpa [Attempt.acts] using told
              obtain ⟨rfl, rfl⟩ := same
              exact ⟨trivial, rfl, _, rfl⟩
          | response response =>
              simp only [reply] at told ⊢
              rw [Attempt.events_answered] at told ⊢
              have same : ready = other ∧ operationId = resolved.operationId := by
                simpa [Attempt.failureEvent] using told
              obtain ⟨rfl, rfl⟩ := same
              exact ⟨trivial, rfl, _, rfl⟩

/-- When a stage prepares a request, it tells of its missing tokens right before, and reports
on its own templates and on no others. -/
def StageTrace.ReportsMissing (setting : Setting) (session : Session) (trace : StageTrace) :
    Prop :=
  ∀ ready operationId, .requestPrepared ready operationId ∈ eventsOf trace.ownActs →
    ∃ stage auth request made resolved, trace = .resolved stage auth request made ∧
      Prepares setting session stage auth request resolved ready ∧
      (∃ later, eventsOf trace.ownActs =
        .requestStarted stage.target? ::
          .variablesSubstituted request.stack request.seen.found request.seen.missing ::
          .requestPrepared ready operationId :: later) ∧
      MissingReported
        (ownFillings (session.perform (authActs auth)).stack stage resolved.content)
        ((credentialSources setting.bundle session auth).map CredentialSource.filling)
        request.seen.missing

theorem StageRuns.reportsMissing {stage : Stage} {trace : StageTrace}
    (runs : StageRuns setting session stage trace) : trace.ReportsMissing setting session := by
  intro ready operationId told
  cases runs with
  | unresolved failure => simp [StageTrace.ownActs] at told
  | @resolved _ authorized _ resolved auth authorization request found entries after filled =>
      have credentials := entries.credentials_eq
      have toldInAttempt : .requestPrepared ready operationId ∈ eventsOf
          (attempt setting authorized.sent stage resolved authorization
            request.template).acts := by
        simpa [StageTrace.ownActs] using told
      obtain ⟨met, placed, later, events⟩ := attempt_prepared toldInAttempt
      -- No entry failed, so the authorization is its credentials, and these are the sources.
      obtain ⟨acquired, error⟩ := authorization
      obtain rfl : error = none := met
      obtain rfl : acquired = _ := credentials
      subst after
      refine ⟨stage, auth, request, _, resolved, rfl, ⟨found, entries, filled, placed⟩,
        ⟨later, ?_⟩, ?_⟩
      · rw [← events]
        rfl
      · rw [filled]
        exact missingReported_of_mem_iff (fun _ => mem_missing_substituteStage) _

end Execution

open Execution

/-- A stage that prepares a request reports the names that the values of its variables and
its request leave open, from whatever session it is run, and so does every stage of a run, at
every depth. What the credentials leave open is reported just if the stage leaves it open
too. -/
theorem missing_tokens_reported (setting : Setting) :
    (∀ depth playbooks seed run, Run.within depth setting playbooks seed = some run →
      ∃ traces, PlaybooksRun setting (.start seed) playbooks traces run.outcome.playbooks ∧
        run.events = traces.flatMap PlaybookTrace.events ∧
        ∀ here ∈ runStagesFrom (.start seed) traces, here.2.ReportsMissing setting here.1) ∧
      ∀ depth session stage status after,
        runStage setting (acquireWithin setting depth) stage session = some (status, after) →
          ∃ trace, StageRuns setting session stage trace ∧ status = trace.status ∧
            after = session.perform trace.acts ∧ trace.ReportsMissing setting session := by
  constructor
  · intro depth playbooks seed run ended
    obtain ⟨traces, runs, -, events⟩ := Run.traced ended
    exact ⟨traces, runs, events, fun here member => (runs.eachStage here member).reportsMissing⟩
  · intro depth session stage status after ran
    obtain ⟨trace, runs, ended, performed⟩ :=
      runStage_traced (acquireWithin_traced setting depth) ran
    exact ⟨trace, runs, ended, performed, runs.reportsMissing⟩

/-! ## A key with a template

The key is filled in when it is acquired, before the stage that asks for it fills in anything. -/

/-- A key that needs no stages. -/
def keyAlone (template : String) : Bundle :=
  { Bundle.empty with
    credentialGroups := [Dict.ofList
      [("key", ⟨.bearer, none, none, "main", Dict.ofList [("main", ⟨template, []⟩)]⟩)]] }

def keySetting (template : String) : Setting :=
  ⟨keyAlone template, .constant (.ofStatus 200), .standard⟩

/-- A request without tokens that asks for the key. -/
def keyedStage (environment : Dict Json) : Stage :=
  .inline ⟨none, ⟨"GET", "http://[::1]/", .none, none⟩, ["key"], none, ∅⟩ environment

/-- A stage with an open token in a variable. -/
def steppedStage : Stage := keyedStage (Dict.ofList [("step", .string "\x7b\x7bn\x7d\x7d")])

/-- The variable's token is reported, and the request is sent with a key that has none. -/
theorem steppedStage_reported :
    ∃ trace stage auth request made ready resolved,
      StageRuns (keySetting "secret") (.start .empty) steppedStage trace ∧
      trace = .resolved stage auth request made ∧
      Prepares (keySetting "secret") (.start .empty) stage auth request resolved ready ∧
      "n" ∈ request.seen.missing := by
  have direct : StageRuns (keySetting "secret") (.start .empty) steppedStage _ :=
    .resolved rfl (.next (.direct rfl rfl rfl) .done) rfl rfl
  obtain ⟨⟨status, after⟩, ran⟩ := Option.isSome_iff_exists.1
    (show (runStage (keySetting "secret") (acquireWithin (keySetting "secret") 1) steppedStage
      (.start .empty)).isSome by decide +kernel)
  obtain ⟨trace, runs, -, -, reports⟩ :=
    (missing_tokens_reported (keySetting "secret")).2 1 _ _ _ _ ran
  obtain rfl := runs.unique direct
  obtain ⟨stage, auth, request, made, resolved, same, prepares, -, report⟩ :=
    reports ⟨"GET", "http://[::1]/", Dict.ofList [("Authorization", "Bearer secret")], none⟩ none
      (by decide +kernel)
  refine ⟨_, stage, auth, request, made, _, resolved, runs, same, prepares, ?_⟩
  cases same
  exact (report.reported "n").2
    ⟨_, List.mem_cons_self, show _ ∈ _ by decide +kernel, show _ = _ by decide +kernel⟩

/-- The key's token has no value and goes out in a header, while nothing is reported. -/
theorem openKey_unreported :
    (keyAlone "\x7b\x7btoken\x7d\x7d").validate = .ok () ∧
    (∃ requirement, (keyAlone "\x7b\x7btoken\x7d\x7d").requirement "key" = .ok requirement ∧
      (CredentialSource.filling ⟨.empty, requirement⟩).LeavesOpen "token") ∧
    (Run.within 1 (keySetting "\x7b\x7btoken\x7d\x7d") [⟨"Run", [keyedStage ∅]⟩]
      .empty).map Run.events =
        some [.playbookStarted "Run", .authStarted "key", .authFinished "key",
          .requestStarted none,
          .variablesSubstituted
            ⟨[.plain "auth:key"
              (Dict.ofList [("key", .string "\x7b\x7btoken\x7d\x7d")])]⟩ [] [],
          .requestPrepared ⟨"GET", "http://[::1]/",
            Dict.ofList [("Authorization", "Bearer \x7b\x7btoken\x7d\x7d")], none⟩ none,
          .responseReceived (.ofStatus 200), .playbookFinished "Run"] := by
  refine ⟨by decide +kernel, ⟨_, rfl, ?_, ?_⟩, by decide +kernel⟩
  · show _ ∈ _
    decide +kernel
  · show _ = _
    decide +kernel

end RequestFlow
