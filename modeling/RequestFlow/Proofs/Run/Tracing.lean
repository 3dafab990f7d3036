import RequestFlow.Proofs.Run.Inversion

/-!
Contract: every part of a run that has a result has a trace.

Owns: the proof that the steps of a run perform the acts of a trace, whatever the depth
of acquisitions. Its core is the law of copies: the scopes that an acquisition pushed on
its copy of the stack, pushed once more on the original, give the stack of the copy.
-/

namespace RequestFlow

namespace Execution

/-! ## Sending -/

theorem tellAll_eq_perform (session : Session) (events : List Event) :
    session.tellAll events = session.perform (events.map Act.tell) := by
  induction events generalizing session with
  | nil => simp [Session.tellAll]
  | cons event rest inductionHypothesis =>
      rw [List.map_cons, Session.perform_cons, ← inductionHypothesis]
      simp [Session.tellAll, Session.act, Session.tell]

theorem assign_eq_perform (label : String) (content : StageContent) (exchange : Exchange)
    (session : Session) :
    assign label content exchange session =
      let assigned := Assigned.ofRules exchange (rulesFor content exchange.response.status)
      session.perform (Attempt.assignedActs (assigned.scope? label) ++
        (assigned.errors.map fun (name, error) => AssignmentFailure.mk name error.message).map
          fun failure => .tell (Attempt.failureEvent failure)) := by
  simp only [assign, tellAll_eq_perform, Session.perform_append, List.map_map]
  cases (Assigned.ofRules exchange (rulesFor content exchange.response.status)).scope? label <;>
    rfl

theorem runAuthorized_eq_perform (setting : Setting) (stage : Stage) (resolved : ResolvedStage)
    (authorization : Authorization) (session : Session) :
    runAuthorized setting stage resolved authorization session =
      let request := substituteStage session.stack stage resolved.content
      let made := attempt setting session.sent stage resolved authorization request.template
      (made.status, session.perform
        (.tell (.requestStarted stage.target?) :: .substitute stage request :: made.acts)) := by
  simp only [runAuthorized, attempt]
  cases unauthorized : authorization.error with
  | some error => rfl
  | none =>
      cases prepared : prepareRequest
          (substituteStage session.stack stage resolved.content).template
          authorization.credentials with
      | error error => rfl
      | ok ready =>
          cases reply : setting.transport session.sent ready with
          | failure error =>
              simp only [exchange, Session.tell, reply]
              rfl
          | response response =>
              simp only [exchange, Session.tell, reply, assign_eq_perform]
              rfl

/-! ## Copies of the stack -/

/-- What was pushed on a copy of the stack, pushed on the stack itself, gives the copy. -/
theorem adopt_resume (session : Session) (acts : List Act) (scope : Scope)
    (credential : AcquiredCredential) :
    (session.resume ((session.perform acts).push scope)).adopt
        (.ok ⟨credential,
          ((session.perform acts).push scope).stack.since session.stack.size⟩) =
      (session.perform acts).push scope := by
  have grown : ((session.perform acts).push scope).stack.scopes =
      session.stack.scopes ++ (acts.filterMap Act.scope? ++ [scope]) := by
    simp only [Session.push, ScopeStack.push, Session.scopes_perform, List.append_assoc]
  generalize (session.perform acts).push scope = worked at grown ⊢
  obtain ⟨⟨scopes⟩, sent, events⟩ := worked
  change scopes = _ at grown
  subst grown
  simp [Session.resume, Session.adopt, Session.extend, ScopeStack.extend, ScopeStack.since,
    ScopeStack.size]

/-! ## Stages -/

/-- The acquisitions of an acquirer have traces. -/
def Acquirer.Traced (acquirer : Acquirer) (setting : Setting) : Prop :=
  ∀ entry session result worked,
    acquirer entry (session.tell (.authStarted entry)) = some (result, worked) →
      ∃ trace, EntryRuns setting session entry trace (result.map Acquisition.credential) ∧
        (worked.adopt result).tell (.authFinished entry) = session.perform trace.acts

section Traced

variable {setting : Setting} {acquirer : Acquirer} (traced : acquirer.Traced setting)

include traced

theorem authorize_traced {entries : List String} {session after : Session}
    {authorization : Authorization}
    (ran : authorize acquirer entries session = some (authorization, after)) :
    ∃ traces, EntriesRun setting session entries traces authorization ∧
      after = session.perform (authActs traces) := by
  induction entries generalizing session authorization with
  | nil =>
      cases ran
      exact ⟨[], .done, rfl⟩
  | cons entry rest inductionHypothesis =>
      obtain ⟨result, worked, more, acquired, continued, rfl⟩ :=
        authorize_cons_eq_some_iff.1 ran
      obtain ⟨trace, entryRan, performed⟩ := traced entry session result worked acquired
      rw [performed] at continued
      obtain ⟨traces, restRan, finished⟩ := inductionHypothesis continued
      refine ⟨trace :: traces, .next entryRan restRan, ?_⟩
      rw [finished, authActs, Session.perform_append]

theorem runStage_traced {stage : Stage} {session after : Session} {status : StageStatus}
    (ran : runStage setting acquirer stage session = some (status, after)) :
    ∃ trace, StageRuns setting session stage trace ∧ status = trace.status ∧
      after = session.perform trace.acts := by
  rcases runStage_eq_some_iff.1 ran with
    ⟨error, failure, rfl, rfl⟩ | ⟨resolved, authorization, authorized, found, entries, made⟩
  · exact ⟨.unresolved stage error, .unresolved failure, rfl, rfl⟩
  · obtain ⟨auth, entriesRan, performed⟩ := authorize_traced traced entries
    rw [runAuthorized_eq_perform] at made
    cases made
    refine ⟨_, .resolved found entriesRan performed rfl, rfl, ?_⟩
    rw [StageTrace.acts, Session.perform_append, ← performed]

theorem runStages_traced {stages : List Stage} {session after : Session}
    {status : StageStatus}
    (ran : runStages setting acquirer stages session = some (status, after)) :
    ∃ traces, StagesRun setting session stages traces ∧ status = statusOfStages traces ∧
      after = session.perform (stagesActs traces) := by
  induction stages generalizing session status with
  | nil =>
      cases ran
      exact ⟨[], .done, rfl, rfl⟩
  | cons stage rest inductionHypothesis =>
      obtain ⟨first, between, firstRan, continued⟩ := runStages_cons_eq_some_iff.1 ran
      obtain ⟨trace, stageRan, rfl, rfl⟩ := runStage_traced traced firstRan
      rcases continued with ⟨failed, stops, rfl, rfl⟩ | ⟨goesOn, later, laterRan, rfl⟩
      · refine ⟨[trace], .stopped stageRan failed stops, ?_, ?_⟩
        · rw [statusOfStages, List.foldr_cons, failed]
          rfl
        · simp [stagesActs]
      · obtain ⟨traces, restRan, rfl, rfl⟩ := inductionHypothesis laterRan
        refine ⟨trace :: traces, .next stageRan goesOn restRan, rfl, ?_⟩
        rw [stagesActs, Session.perform_append]

theorem runPlaybook_traced {name : String} {stages : List Stage} {session after : Session}
    {status : StageStatus}
    (ran : runPlaybook setting acquirer name stages session = some (status, after)) :
    ∃ trace, PlaybookRuns setting session name stages trace ∧ status = trace.status ∧
      after = session.perform trace.acts := by
  obtain ⟨between, stagesRan, rfl⟩ := runPlaybook_eq_some_iff.1 ran
  obtain ⟨traces, run, rfl, rfl⟩ := runStages_traced traced stagesRan
  refine ⟨.mk name traces, .mk run, rfl, ?_⟩
  rw [PlaybookTrace.acts, Session.perform_cons, Session.perform_append]
  rfl

/-! ## Acquisitions -/

theorem acquire_traced : (acquire setting acquirer).Traced setting := by
  intro entry session result worked ran
  rcases acquire_eq_some_iff.1 ran with
    ⟨error, failure, rfl, rfl⟩ | ⟨requirement, copy, acquired, met, methodRan, rfl, rfl, rfl⟩
  · exact ⟨.unmet entry, .unmet failure, rfl⟩
  · rcases runMethod_eq_some_iff.1 methodRan with ⟨bare, rfl⟩ | ⟨staged, status, playbookRan⟩
    · refine ⟨.direct entry _, .direct met bare rfl, ?_⟩
      exact congrArg (Session.tell · (.authFinished entry)) (adopt_resume _ [] _ _)
    · obtain ⟨playbook, run, -, rfl⟩ := runPlaybook_traced traced playbookRan
      refine ⟨.staged entry playbook _, .staged met staged run rfl, ?_⟩
      rw [adopt_resume, AuthTrace.acts, Session.perform_cons, Session.perform_append]
      rfl

end Traced

theorem acquireWithin_traced (setting : Setting) (depth : Nat) :
    (acquireWithin setting depth).Traced setting := by
  induction depth with
  | zero =>
      intro entry session result worked ran
      cases ran
  | succ depth inductionHypothesis => exact acquire_traced inductionHypothesis

/-! ## Runs -/

theorem runPlaybooks_traced {setting : Setting} {depth : Nat} {playbooks : List Playbook}
    {session after : Session} {outcomes : List PlaybookOutcome}
    (ran : runPlaybooks setting depth playbooks session = some (outcomes, after)) :
    ∃ traces, PlaybooksRun setting session playbooks traces outcomes ∧
      after = session.perform (traces.flatMap PlaybookTrace.acts) := by
  induction playbooks generalizing session after outcomes with
  | nil =>
      cases ran
      exact ⟨[], .done, rfl⟩
  | cons playbook rest inductionHypothesis =>
      obtain ⟨status, between, firstRan, continued⟩ := runPlaybooks_cons_eq_some_iff.1 ran
      obtain ⟨trace, run, rfl, rfl⟩ :=
        runPlaybook_traced (acquireWithin_traced setting depth) firstRan
      rcases continued with ⟨failed, stops, rfl, rfl⟩ | ⟨goesOn, later, restRan, rfl⟩
      · exact ⟨[trace], .stopped run failed stops, by simp⟩
      · obtain ⟨traces, restRun, rfl⟩ := inductionHypothesis restRan
        exact ⟨trace :: traces, .next run goesOn restRun, by simp⟩

end Execution

open Execution

/-- A run that ends has traces. It does no more than their acts, and tells their events. -/
theorem Run.traced {setting : Setting} {depth : Nat} {playbooks : List Playbook}
    {seed : ScopeStack} {run : Run}
    (ended : Run.within depth setting playbooks seed = some run) :
    ∃ traces, PlaybooksRun setting (.start seed) playbooks traces run.outcome.playbooks ∧
      (Session.start seed).perform (traces.flatMap PlaybookTrace.acts) =
        ⟨run.outcome.stack, run.sent, run.events⟩ ∧
      run.events = traces.flatMap PlaybookTrace.events := by
  simp only [Run.within, Option.bind_eq_bind, Option.bind_eq_some_iff, Option.some.injEq]
    at ended
  obtain ⟨⟨outcomes, after⟩, ran, rfl⟩ := ended
  obtain ⟨traces, runs, performed⟩ := runPlaybooks_traced ran
  refine ⟨traces, runs, performed.symm, ?_⟩
  show after.events = _
  rw [performed, Session.events_perform, eventsOf_flatMap]
  rfl

end RequestFlow
