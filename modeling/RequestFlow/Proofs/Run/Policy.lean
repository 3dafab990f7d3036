import RequestFlow.Proofs.Acquisition.Termination
import RequestFlow.Proofs.Run.Nesting
import RequestFlow.Proofs.Run.Tracing

/-!
Contract: what a failure policy promises of a run, at every depth.

Owns: the stages that a playbook runs under a policy, the playbooks that are skipped, the
reasons for which a stage fails, and the proof that a run keeps to all three.

A playbook that acquires a credential is under the same policy as any other. That it is
aborted is no reason for the stage that asked for it to fail.
-/

namespace RequestFlow

namespace Execution

/-! ## Which stages are run -/

/-- Stages are run up to and including the first one that fails; all of them if none
does. -/
def StopsAtFailure (declared : List Stage) (executed : List StageTrace) : Prop :=
  executed.map StageTrace.stage = declared ∧ (∀ stage ∈ executed, stage.status = .completed) ∨
    ∃ completed last rest, executed = completed ++ [last] ∧
      declared = completed.map StageTrace.stage ++ last.stage :: rest ∧
      (∀ stage ∈ completed, stage.status = .completed) ∧ last.status = .failed

theorem StopsAtFailure.cons {declared : List Stage} {executed : List StageTrace}
    {first : StageTrace} (completed : first.status = .completed)
    (stops : StopsAtFailure declared executed) :
    StopsAtFailure (first.stage :: declared) (first :: executed) := by
  rcases stops with ⟨rfl, each⟩ | ⟨before, last, rest, rfl, rfl, each, failed⟩
  · exact .inl ⟨rfl, List.forall_mem_cons.2 ⟨completed, each⟩⟩
  · exact .inr ⟨first :: before, last, rest, rfl, rfl,
      List.forall_mem_cons.2 ⟨completed, each⟩, failed⟩

/-- The stages that are run of those that are declared, under a policy. -/
def ObeysPolicy (policy : FailurePolicy) (declared : List Stage)
    (executed : List StageTrace) : Prop :=
  match policy with
  | .continueStages => executed.map StageTrace.stage = declared
  | .abortPlaybook | .abortRun => StopsAtFailure declared executed

theorem StagesRun.all_run {setting : Setting} {session : Session} {stages : List Stage}
    {traces : List StageTrace} (runs : StagesRun setting session stages traces)
    (continues : setting.policy = .continueStages) :
    traces.map StageTrace.stage = stages := by
  induction traces generalizing session stages with
  | nil =>
      cases runs
      rfl
  | cons trace rest inductionHypothesis =>
      cases runs with
      | stopped _ _ stops => exact absurd continues stops
      | next first _ later =>
          rw [List.map_cons, inductionHypothesis later, first.stage_eq]

theorem StagesRun.stopsAtFailure {setting : Setting} {session : Session} {stages : List Stage}
    {traces : List StageTrace} (runs : StagesRun setting session stages traces)
    (stops : setting.policy ≠ .continueStages) : StopsAtFailure stages traces := by
  induction traces generalizing session stages with
  | nil =>
      cases runs
      exact .inl ⟨rfl, by simp⟩
  | cons trace rest inductionHypothesis =>
      cases runs with
      | @stopped _ stage unrun _ first failed _ =>
          refine .inr ⟨[], trace, unrun, rfl, ?_, by simp, failed⟩
          rw [first.stage_eq, List.map_nil, List.nil_append]
      | next first goesOn later =>
          have completed := goesOn.resolve_right stops
          rw [← first.stage_eq]
          exact (inductionHypothesis later).cons completed

theorem PlaybookRuns.name_eq {setting : Setting} {session : Session} {name : String}
    {stages : List Stage} {trace : PlaybookTrace}
    (runs : PlaybookRuns setting session name stages trace) : trace.name = name := by
  cases runs
  rfl

theorem PlaybookRuns.obeysPolicy {setting : Setting} {session : Session} {name : String}
    {stages : List Stage} {trace : PlaybookTrace}
    (runs : PlaybookRuns setting session name stages trace) :
    ObeysPolicy setting.policy stages trace.stages := by
  obtain ⟨stagesRun⟩ := runs
  cases policy : setting.policy with
  | continueStages => exact stagesRun.all_run policy
  | abortPlaybook => exact stagesRun.stopsAtFailure (by simp [policy])
  | abortRun => exact stagesRun.stopsAtFailure (by simp [policy])

/-- A playbook is aborted exactly when one of its own stages failed. -/
theorem PlaybookTrace.status_eq_failed_iff (trace : PlaybookTrace) :
    trace.status = .failed ↔ ∃ stage ∈ trace.stages, stage.status = .failed := by
  rw [PlaybookTrace.status]
  induction trace.stages with
  | nil => simp [statusOfStages]
  | cons stage rest inductionHypothesis =>
      rw [List.exists_mem_cons_iff, ← inductionHypothesis, statusOfStages, List.foldr_cons]
      change stage.status.both (statusOfStages rest) = _ ↔ _
      cases stage.status <;> cases statusOfStages rest <;> decide

/-! ## Why a stage fails -/

/-- The reasons for which a stage fails that is run in a session. In the last two all its
credentials are acquired, and the request is made with what they leave behind. -/
inductive StageFails (setting : Setting) (session : Session) (stage : Stage) : Prop where
  | unresolved {error : ResolveError} (failure : setting.bundle.resolve stage = .error error) :
      StageFails setting session stage
  | credential {resolved : ResolvedStage} {entry : String} {error : AuthError}
      (found : setting.bundle.resolve stage = .ok resolved)
      (asked : entry ∈ resolved.content.auth)
      (failure : setting.bundle.requirement entry = .error error) :
      StageFails setting session stage
  | preparation {resolved : ResolvedStage} {auth : List AuthTrace}
      {authorization : Authorization} {authorized : Session} {error : PrepareError}
      (found : setting.bundle.resolve stage = .ok resolved)
      (entries : EntriesRun setting session resolved.content.auth auth authorization)
      (met : authorization.error = none)
      (after : authorized = session.perform (authActs auth))
      (failure : prepareRequest
        (substituteStage authorized.stack stage resolved.content).template
        authorization.credentials = .error error) :
      StageFails setting session stage
  | transport {resolved : ResolvedStage} {auth : List AuthTrace}
      {authorization : Authorization} {authorized : Session} {request : HttpRequest}
      {error : TransportError} (found : setting.bundle.resolve stage = .ok resolved)
      (entries : EntriesRun setting session resolved.content.auth auth authorization)
      (met : authorization.error = none)
      (after : authorized = session.perform (authActs auth))
      (prepared : prepareRequest
        (substituteStage authorized.stack stage resolved.content).template
        authorization.credentials = .ok request)
      (failure : setting.transport authorized.sent request = .failure error) :
      StageFails setting session stage

/-- Credentials are in the way of a request exactly when one of the entries names none. -/
theorem EntriesRun.error_iff {setting : Setting} {session : Session} {entries : List String}
    {traces : List AuthTrace} {authorization : Authorization}
    (runs : EntriesRun setting session entries traces authorization) :
    (∃ error, authorization.error = some error) ↔
      ∃ entry ∈ entries, ∃ error, setting.bundle.requirement entry = .error error := by
  induction traces generalizing session entries authorization with
  | nil =>
      cases runs
      simp
  | cons trace rest inductionHypothesis =>
      cases runs with
      | @next _ entry _ _ _ result _ first later =>
          rw [List.exists_mem_cons_iff, ← inductionHypothesis later]
          cases first with
          | unmet failure => simp [Authorization.cons, failure]
          | direct met _ _ => simp [Authorization.cons, met]
          | staged met _ _ _ => simp [Authorization.cons, met]

theorem attempt_status_iff (setting : Setting) (sent : List HttpRequest) (stage : Stage)
    (resolved : ResolvedStage) (authorization : Authorization) (template : RequestTemplate) :
    (attempt setting sent stage resolved authorization template).status = .failed ↔
      (∃ error, authorization.error = some error) ∨ authorization.error = none ∧
        ((∃ error, prepareRequest template authorization.credentials = .error error) ∨
          ∃ request error, prepareRequest template authorization.credentials = .ok request ∧
            setting.transport sent request = .failure error) := by
  unfold attempt
  cases unauthorized : authorization.error with
  | some error => simp [Attempt.status]
  | none =>
      cases prepared : prepareRequest template authorization.credentials with
      | error error => simp [Attempt.status]
      | ok request => cases reply : setting.transport sent request <;> simp [Attempt.status, reply]

/-- A stage fails for one of its reasons and for no other. -/
theorem StageRuns.failed_iff {setting : Setting} {session : Session} {stage : Stage}
    {trace : StageTrace} (runs : StageRuns setting session stage trace) :
    trace.status = .failed ↔ StageFails setting session stage := by
  cases runs with
  | unresolved failure => exact iff_of_true rfl (.unresolved failure)
  | resolved found entries after substituted =>
      subst substituted
      rw [StageTrace.status, attempt_status_iff, entries.error_iff]
      constructor
      · rintro (⟨entry, asked, error, failure⟩ | ⟨met, ⟨error, failure⟩ |
          ⟨request, error, prepared, failure⟩⟩)
        · exact .credential found asked failure
        · exact .preparation found entries met after failure
        · exact .transport found entries met after prepared failure
      · intro fails
        cases fails with
        | unresolved failure =>
            rw [found] at failure
            cases failure
        | credential otherFound asked failure =>
            rw [found] at otherFound
            cases otherFound
            exact .inl ⟨_, asked, _, failure⟩
        | preparation otherFound otherEntries met otherAfter failure =>
            rw [found] at otherFound
            cases otherFound
            obtain ⟨rfl, rfl⟩ := entries.unique otherEntries
            rw [otherAfter, ← after] at failure
            exact .inr ⟨met, .inl ⟨_, failure⟩⟩
        | transport otherFound otherEntries met otherAfter prepared failure =>
            rw [found] at otherFound
            cases otherFound
            obtain ⟨rfl, rfl⟩ := entries.unique otherEntries
            rw [otherAfter, ← after] at prepared failure
            exact .inr ⟨met, .inr ⟨_, _, prepared, failure⟩⟩

/-! ## Which playbooks are run -/

/-- What a run tells of a playbook that was started. -/
def PlaybookTrace.outcome (trace : PlaybookTrace) : PlaybookOutcome :=
  ⟨trace.name, ending trace.status⟩

/-- A playbook is run under a policy: the trace has its name, and those of its stages that
the policy lets it run. -/
def RunsUnder (policy : FailurePolicy) (playbook : Playbook) (trace : PlaybookTrace) : Prop :=
  trace.name = playbook.name ∧ ObeysPolicy policy playbook.stages trace.stages

theorem PlaybookRuns.runsUnder {setting : Setting} {session : Session} {name : String}
    {stages : List Stage} {trace : PlaybookTrace}
    (runs : PlaybookRuns setting session name stages trace) :
    RunsUnder setting.policy ⟨name, stages⟩ trace :=
  ⟨runs.name_eq, runs.obeysPolicy⟩

/-- All playbooks finished; or one aborted after some that did, and the rest was skipped. -/
def FinishedUntil (statuses : List PlaybookStatus) : Prop :=
  (∃ finished, statuses = List.replicate finished .finished) ∨
    ∃ finished skipped, statuses =
      List.replicate finished .finished ++ .aborted :: List.replicate skipped .skipped

theorem FinishedUntil.cons {statuses : List PlaybookStatus} (later : FinishedUntil statuses) :
    FinishedUntil (.finished :: statuses) := by
  rcases later with ⟨finished, rfl⟩ | ⟨finished, skipped, rfl⟩
  · exact .inl ⟨finished + 1, rfl⟩
  · exact .inr ⟨finished + 1, skipped, rfl⟩

section PlaybooksRun

variable {setting : Setting} {session : Session} {playbooks : List Playbook}
  {traces : List PlaybookTrace} {outcomes : List PlaybookOutcome}

/-- The playbooks that are run come first, and what is told of them is what was done. -/
theorem PlaybooksRun.split (runs : PlaybooksRun setting session playbooks traces outcomes) :
    ∃ started later, playbooks = started ++ later ∧
      List.Forall₂ (RunsUnder setting.policy) started traces ∧
      outcomes = traces.map PlaybookTrace.outcome ++ later.map skipped := by
  induction runs with
  | done => exact ⟨[], [], rfl, .nil, rfl⟩
  | @stopped _ playbook rest trace first failed _ =>
      refine ⟨[playbook], rest, rfl, .cons first.runsUnder .nil, ?_⟩
      rw [List.map_singleton, PlaybookTrace.outcome, first.name_eq, failed]
      rfl
  | @next _ playbook rest trace traces outcomes first _ _ inductionHypothesis =>
      obtain ⟨started, later, rfl, each, rfl⟩ := inductionHypothesis
      refine ⟨playbook :: started, later, rfl, .cons first.runsUnder each, ?_⟩
      rw [List.map_cons, PlaybookTrace.outcome, first.name_eq]
      rfl

theorem PlaybooksRun.named (runs : PlaybooksRun setting session playbooks traces outcomes) :
    outcomes.map PlaybookOutcome.name = playbooks.map Playbook.name := by
  induction runs with
  | done => rfl
  | stopped _ _ _ =>
      rw [List.map_cons, List.map_cons, List.map_map]
      rfl
  | next _ _ _ inductionHypothesis => rw [List.map_cons, inductionHypothesis, List.map_cons]

theorem PlaybooksRun.none_skipped (runs : PlaybooksRun setting session playbooks traces outcomes)
    (goesOn : setting.policy ≠ .abortRun) : ∀ outcome ∈ outcomes, outcome.status ≠ .skipped := by
  induction runs with
  | done => simp
  | stopped _ _ stops => exact absurd stops goesOn
  | @next _ _ _ trace _ _ _ _ _ inductionHypothesis =>
      refine List.forall_mem_cons.2 ⟨?_, inductionHypothesis⟩
      show ending trace.status ≠ .skipped
      cases trace.status <;> decide

theorem PlaybooksRun.finishedUntil
    (runs : PlaybooksRun setting session playbooks traces outcomes)
    (stops : setting.policy = .abortRun) :
    FinishedUntil (outcomes.map PlaybookOutcome.status) := by
  induction runs with
  | done => exact .inl ⟨0, rfl⟩
  | @stopped _ _ rest _ _ _ _ =>
      refine .inr ⟨0, rest.length, ?_⟩
      rw [List.map_cons, List.map_map, List.replicate_zero, List.nil_append,
        ← List.map_const']
      rfl
  | next _ goesOn _ inductionHypothesis =>
      have completed := goesOn.resolve_right (not_not_intro stops)
      rw [List.map_cons, completed]
      exact inductionHypothesis.cons

end PlaybooksRun

/-! ## The promise -/

/-- What a policy promises of a run that starts in a session. -/
structure PolicyKept (setting : Setting) (session : Session) (playbooks : List Playbook)
    (traces : List PlaybookTrace) (outcomes : List PlaybookOutcome) : Prop where
  /-- There is one outcome for each playbook, in their order. -/
  named : outcomes.map PlaybookOutcome.name = playbooks.map Playbook.name
  /-- The playbooks that are run come first, each with the stages that it may run. The others
  are skipped. -/
  split : ∃ started later, playbooks = started ++ later ∧
    List.Forall₂ (RunsUnder setting.policy) started traces ∧
    outcomes = traces.map PlaybookTrace.outcome ++ later.map skipped
  goesOn : setting.policy ≠ .abortRun → ∀ outcome ∈ outcomes, outcome.status ≠ .skipped
  stops : setting.policy = .abortRun → FinishedUntil (outcomes.map PlaybookOutcome.status)
  /-- The policy holds for the playbooks that acquire credentials, at every depth. -/
  nested : ∀ part ∈ runAcquisitions session traces, ∃ requirement,
    setting.bundle.requirement part.entry = .ok requirement ∧
      RunsUnder setting.policy ⟨requirement.name, requirement.method.requests⟩ part.playbook
  /-- At every depth a playbook is aborted only for one of its own stages. -/
  aborted : ∀ here ∈ runPlaybooksFrom session traces,
    here.2.status = .failed ↔ ∃ stage ∈ here.2.stages, stage.status = .failed
  /-- At every depth a stage fails only for one of its reasons. -/
  failed : ∀ here ∈ runStagesFrom session traces,
    here.2.status = .failed ↔ StageFails setting here.1 here.2.stage

theorem PlaybooksRun.policyKept {setting : Setting} {session : Session}
    {playbooks : List Playbook} {traces : List PlaybookTrace} {outcomes : List PlaybookOutcome}
    (runs : PlaybooksRun setting session playbooks traces outcomes) :
    PolicyKept setting session playbooks traces outcomes where
  named := runs.named
  split := runs.split
  goesOn := runs.none_skipped
  stops := runs.finishedUntil
  nested := by
    intro part member
    obtain ⟨requirement, met, run⟩ := runs.acquisitions part member
    exact ⟨requirement, met, run.runsUnder⟩
  aborted here _ := here.2.status_eq_failed_iff
  failed here member := (runs.eachStage here member).failed_iff

end Execution

open Execution

/-- A run that ends keeps to its policy, whatever bundle, transport, playbooks and variables
it has. Its events and requests are those of the playbooks that were started, so that one that
is skipped has none. -/
theorem Run.policy_kept {setting : Setting} {depth : Nat} {playbooks : List Playbook}
    {seed : ScopeStack} {run : Run}
    (ended : Run.within depth setting playbooks seed = some run) :
    ∃ traces, PlaybooksRun setting (.start seed) playbooks traces run.outcome.playbooks ∧
      run.events = traces.flatMap PlaybookTrace.events ∧
      run.sent = traces.flatMap PlaybookTrace.requests ∧
      PolicyKept setting (.start seed) playbooks traces run.outcome.playbooks := by
  obtain ⟨traces, runs, performed, events⟩ := Run.traced ended
  refine ⟨traces, runs, events, ?_, runs.policyKept⟩
  have sent := Session.sent_perform (.start seed) (traces.flatMap PlaybookTrace.acts)
  rw [performed, List.filterMap_flatMap] at sent
  exact sent

/-- Two requests that ask for a login, over a transport that never answers, when the first
playbook that aborts is to end the run. -/
theorem loginAsked_policy_kept :
    ∃ run, Run.within 4 ⟨loginByReference ["key"], fun _ _ => .failure .timeout, .abortRun⟩
        (loginAsked ++ loginAsked) .empty = some run ∧
      ∃ traces, PolicyKept ⟨loginByReference ["key"], fun _ _ => .failure .timeout, .abortRun⟩
        (.start .empty) (loginAsked ++ loginAsked) traces run.outcome.playbooks := by
  obtain ⟨run, ended⟩ := everyRunEnds_of_acyclic acyclic_loginByReference_key
    (fun _ _ => .failure .timeout) .abortRun (loginAsked ++ loginAsked) .empty
  have within := ended 4 (by decide)
  obtain ⟨traces, -, -, -, kept⟩ := Run.policy_kept within
  exact ⟨run, within, traces, kept⟩

end RequestFlow
