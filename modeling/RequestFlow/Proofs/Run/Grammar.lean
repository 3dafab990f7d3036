import RequestFlow.Proofs.Acquisition.Termination
import RequestFlow.Proofs.Run.Tracing

/-!
Contract: the events of every run that ends are a word of one grammar.

Owns: the words of requests, entries, stages, playbooks and runs over a bundle, and the
proof that the events of a run are such a word. What a word tells beyond the order of
its events: each stage has the entries of its own content, an entry has a block exactly
when stages acquire its credential, and a playbook goes on after a stage or ends with it.

Does not own: what the events carry, beyond names and targets.
-/

namespace RequestFlow

open Execution

/-! ## Words -/

/-- What is told of a request whose tokens are replaced. -/
inductive RequestWord : StageStatus → List Event → Prop where
  | unprepared (error : StageError) : RequestWord .failed [.prepareFailed error]
  | unanswered (request : HttpRequest) (operationId : Option String) (error : TransportError) :
      RequestWord .failed [.requestPrepared request operationId, .transportFailed error]
  | answered (request : HttpRequest) (operationId : Option String) (response : HttpResponse)
      (assigned : Option Scope) (failures : List AssignmentFailure) :
      RequestWord .completed
        (.requestPrepared request operationId :: .responseReceived response ::
          ((assigned.map Event.variablesAssigned).toList ++
            failures.map fun failure => .assignmentFailed failure.name failure.error))

mutual

/-- A block: a playbook with some stages, from its start to its end. -/
inductive PlaybookWord (bundle : Bundle) :
    String → List Stage → StageStatus → List Event → Prop where
  | mk {name : String} {stages : List Stage} {status : StageStatus} {events : List Event}
      (word : StagesWord bundle stages status events) :
      PlaybookWord bundle name stages status
        (.playbookStarted name :: (events ++ [closing name status]))

/-- The words of stages, in their order. Only a stage that failed may be the last one
before others that are not run. -/
inductive StagesWord (bundle : Bundle) :
    List Stage → StageStatus → List Event → Prop where
  | done : StagesWord bundle [] .completed []
  | stopped {stage : Stage} {rest : List Stage} {events : List Event}
      (word : StageWord bundle stage .failed events) :
      StagesWord bundle (stage :: rest) .failed events
  | next {stage : Stage} {rest : List Stage} {first later : StageStatus}
      {events more : List Event} (word : StageWord bundle stage first events)
      (words : StagesWord bundle rest later more) :
      StagesWord bundle (stage :: rest) (first.both later) (events ++ more)

/-- A stage without a content, or the entries of its content and then its request. -/
inductive StageWord (bundle : Bundle) : Stage → StageStatus → List Event → Prop where
  | unresolved {stage : Stage} {error : ResolveError}
      (failure : bundle.resolve stage = .error error) :
      StageWord bundle stage .failed
        [.requestStarted stage.target?, .prepareFailed (.unresolved error)]
  | resolved {stage : Stage} {resolved : ResolvedStage} {status : StageStatus}
      {entries request : List Event} {stack : ScopeStack} {present missing : List String}
      (found : bundle.resolve stage = .ok resolved)
      (auth : EntriesWord bundle resolved.content.auth entries)
      (word : RequestWord status request) :
      StageWord bundle stage status
        (entries ++ .requestStarted stage.target? ::
          .variablesSubstituted stack present missing :: request)

/-- The words of some entries, one for each, in their order. -/
inductive EntriesWord (bundle : Bundle) : List String → List Event → Prop where
  | done : EntriesWord bundle [] []
  | next {entry : String} {rest : List String} {events more : List Event}
      (word : EntryWord bundle entry events) (words : EntriesWord bundle rest more) :
      EntriesWord bundle (entry :: rest) (events ++ more)

/-- An entry has a block when its credential and method exist and the method has stages;
else it has none. -/
inductive EntryWord (bundle : Bundle) : String → List Event → Prop where
  | bare {entry : String}
      (unstaged : ∀ requirement, bundle.requirement entry = .ok requirement →
        requirement.method.requests = []) :
      EntryWord bundle entry [.authStarted entry, .authFinished entry]
  | staged {entry : String} {requirement : Requirement} {status : StageStatus}
      {events : List Event} (met : bundle.requirement entry = .ok requirement)
      (staged : requirement.method.requests ≠ [])
      (block : PlaybookWord bundle (AuthRef.parse entry).name requirement.method.requests
        status events) :
      EntryWord bundle entry (.authStarted entry :: (events ++ [.authFinished entry]))

end

/-- The blocks of the playbooks that are not skipped, in their order. Only playbooks
after one that aborted are skipped, and then all of them. -/
inductive RunWord (bundle : Bundle) :
    List Playbook → List PlaybookOutcome → List Event → Prop where
  | done : RunWord bundle [] [] []
  | next {playbook : Playbook} {rest : List Playbook} {status : StageStatus}
      {outcomes : List PlaybookOutcome} {events more : List Event}
      (block : PlaybookWord bundle playbook.name playbook.stages status events)
      (blocks : RunWord bundle rest outcomes more) :
      RunWord bundle (playbook :: rest) (⟨playbook.name, ending status⟩ :: outcomes)
        (events ++ more)
  | stopped {playbook : Playbook} {rest : List Playbook} {events : List Event}
      (block : PlaybookWord bundle playbook.name playbook.stages .failed events) :
      RunWord bundle (playbook :: rest) (⟨playbook.name, .aborted⟩ :: rest.map skipped)
        events

/-! ## The events of traces -/

namespace Execution

theorem requestWord_attempt (attempt : Attempt) :
    RequestWord attempt.status (eventsOf attempt.acts) := by
  cases attempt with
  | unprepared error => exact .unprepared error
  | unanswered request operationId error => exact .unanswered request operationId error
  | answered request operationId response assigned failures =>
      rw [Attempt.events_answered]
      exact .answered request operationId response assigned failures

mutual

theorem PlaybookRuns.word {setting : Setting} {session : Session} {name : String}
    {stages : List Stage} {trace : PlaybookTrace} :
    PlaybookRuns setting session name stages trace →
      PlaybookWord setting.bundle name stages trace.status trace.events
  | .mk runs => by
      rw [PlaybookTrace.events, PlaybookTrace.acts, eventsOf_tell, eventsOf_append]
      exact .mk runs.word

theorem StagesRun.word {setting : Setting} {session : Session} {stages : List Stage}
    {traces : List StageTrace} :
    StagesRun setting session stages traces →
      StagesWord setting.bundle stages (statusOfStages traces) (eventsOf (stagesActs traces))
  | .done => .done
  | .stopped first failed _ => by
      have word := first.word
      rw [failed] at word
      rw [statusOfStages, List.foldr_cons, failed, stagesActs, stagesActs, List.append_nil]
      exact .stopped word
  | .next first _ later => by
      rw [stagesActs, eventsOf_append]
      exact .next first.word later.word

theorem StageRuns.word {setting : Setting} {session : Session} {stage : Stage}
    {trace : StageTrace} :
    StageRuns setting session stage trace →
      StageWord setting.bundle stage trace.status (eventsOf trace.acts)
  | .unresolved failure => .unresolved failure
  | .resolved found entries _ _ => by
      rw [StageTrace.acts, eventsOf_append]
      exact .resolved found entries.word (requestWord_attempt _)

theorem EntriesRun.word {setting : Setting} {session : Session} {entries : List String}
    {traces : List AuthTrace} {authorization : Authorization} :
    EntriesRun setting session entries traces authorization →
      EntriesWord setting.bundle entries (eventsOf (authActs traces))
  | .done => .done
  | .next first later => by
      rw [authActs, eventsOf_append]
      exact .next first.word later.word

theorem EntryRuns.word {setting : Setting} {session : Session} {entry : String}
    {trace : AuthTrace} {result : Except AuthError AcquiredCredential} :
    EntryRuns setting session entry trace result →
      EntryWord setting.bundle entry (eventsOf trace.acts)
  | .unmet failure => by
      refine .bare fun requirement met => ?_
      rw [failure] at met
      cases met
  | .direct met bare _ => by
      refine .bare fun requirement met' => ?_
      rw [met] at met'
      cases met'
      exact bare
  | .staged met staged runs _ => by
      have block := runs.word
      rw [(Bundle.requirement_eq_ok met).1] at block
      rw [AuthTrace.acts, eventsOf_tell, eventsOf_append]
      exact .staged met staged block

end

theorem PlaybooksRun.word {setting : Setting} {session : Session} {playbooks : List Playbook}
    {traces : List PlaybookTrace} {outcomes : List PlaybookOutcome}
    (runs : PlaybooksRun setting session playbooks traces outcomes) :
    RunWord setting.bundle playbooks outcomes (traces.flatMap PlaybookTrace.events) := by
  induction runs with
  | done => exact .done
  | stopped first failed _ =>
      have block := first.word
      rw [failed] at block
      rw [List.flatMap_singleton]
      exact .stopped block
  | next first _ _ inductionHypothesis =>
      rw [List.flatMap_cons]
      exact .next first.word inductionHypothesis

end Execution

/-! ## The events of runs -/

/-- The events of a run that ends are a word, whatever bundle, policy, transport,
playbooks and variables it has. -/
theorem Run.events_word {setting : Setting} {depth : Nat} {playbooks : List Playbook}
    {seed : ScopeStack} {run : Run}
    (ended : Run.within depth setting playbooks seed = some run) :
    RunWord setting.bundle playbooks run.outcome.playbooks run.events := by
  obtain ⟨traces, runs, -, events⟩ := Run.traced ended
  rw [events]
  exact runs.word

/-- The run of a request that asks for a login, which asks for a key in turn. -/
theorem loginAsked_events_word :
    ∃ run, Run.within 4 loginSetting loginAsked .empty = some run ∧
      RunWord (loginByReference ["key"]) loginAsked run.outcome.playbooks run.events := by
  obtain ⟨run, ended⟩ := exists_run_loginAsked
  exact ⟨run, ended, Run.events_word ended⟩

end RequestFlow
