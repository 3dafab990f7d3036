import RequestFlow.Proofs.Run.Policy

/-!
Contract: how the runs of the same playbooks under different failure policies compare.

Owns: the proof that ending the run at the first aborted playbook does what going on to the
next playbook does, up to that point; and the proof that a run in which every stage
completes is the run under every policy.

The two policies that stop a playbook at its first failure differ between the playbooks of
a run only, so that they acquire credentials alike. The third one differs inside playbooks
too, also where a failure inside an acquisition has no influence on the stage around it.
-/

namespace RequestFlow

open Execution

namespace Execution

/-- The setting of the same runs under another policy. -/
def Setting.under (setting : Setting) (policy : FailurePolicy) : Setting :=
  { setting with policy := policy }

/-! ## Policies that stop playbooks alike -/

section Stopping

variable {setting : Setting} {policy : FailurePolicy}
  (alike : (policy != .continueStages) = (setting.policy != .continueStages))

include alike

theorem runStages_under (acquirer : Acquirer) (stages : List Stage) (session : Session) :
    runStages (setting.under policy) acquirer stages session =
      runStages setting acquirer stages session := by
  induction stages generalizing session with
  | nil => rfl
  | cons stage rest inductionHypothesis =>
      have sameStage : runStage (setting.under policy) acquirer stage session =
          runStage setting acquirer stage session := rfl
      have samePolicy : ((setting.under policy).policy != .continueStages) =
          (setting.policy != .continueStages) := alike
      simp only [runStages, sameStage, samePolicy, inductionHypothesis]

theorem runPlaybook_under (acquirer : Acquirer) (name : String) (stages : List Stage)
    (session : Session) :
    runPlaybook (setting.under policy) acquirer name stages session =
      runPlaybook setting acquirer name stages session := by
  simp only [runPlaybook, runStages_under alike]

theorem acquireWithin_under (depth : Nat) :
    acquireWithin (setting.under policy) depth = acquireWithin setting depth := by
  induction depth with
  | zero => rfl
  | succ depth inductionHypothesis =>
      funext entry session
      have sameRequirement : (setting.under policy).bundle.requirement entry =
          setting.bundle.requirement entry := rfl
      simp only [acquireWithin, acquire, sameRequirement, runMethod, runPlaybook_under alike,
        inductionHypothesis]

end Stopping

/-! ## Ending a run early -/

theorem runPlaybooks_grows {setting : Setting} {depth : Nat} {playbooks : List Playbook}
    {session after : Session} {outcomes : List PlaybookOutcome}
    (ran : runPlaybooks setting depth playbooks session = some (outcomes, after)) :
    session.events <+: after.events ∧ session.sent <+: after.sent := by
  obtain ⟨traces, -, rfl⟩ := runPlaybooks_traced ran
  rw [Session.events_perform, Session.sent_perform]
  exact ⟨List.prefix_append _ _, List.prefix_append _ _⟩

/-- No playbook aborts before the last one. -/
def NoneAbortsEarly (outcomes : List PlaybookOutcome) : Prop :=
  ∀ outcome ∈ outcomes.dropLast, outcome.status ≠ .aborted

theorem NoneAbortsEarly.of_cons {first : PlaybookOutcome} {later : List PlaybookOutcome}
    (none : NoneAbortsEarly (first :: later)) : NoneAbortsEarly later := by
  cases later with
  | nil => exact fun outcome member => nomatch member
  | cons second rest =>
      intro outcome member
      refine none outcome ?_
      rw [List.dropLast_cons_cons]
      exact List.mem_cons_of_mem _ member

/-- An aborted playbook that comes first comes last. -/
theorem NoneAbortsEarly.last {name : String} {later : List PlaybookOutcome}
    (none : NoneAbortsEarly (⟨name, .aborted⟩ :: later)) : later = [] := by
  cases later with
  | nil => rfl
  | cons second rest =>
      refine absurd rfl (none ⟨name, .aborted⟩ ?_)
      rw [List.dropLast_cons_cons]
      exact List.mem_cons_self

/-- What ending the run at the first aborted playbook does comes first in what going on
does, and is all of it when no playbook before the last one aborts in either run. -/
theorem runPlaybooks_abortRun {setting : Setting} (goesOn : setting.policy = .abortPlaybook)
    {depth : Nat} {playbooks : List Playbook} {session after : Session}
    {outcomes : List PlaybookOutcome}
    (ran : runPlaybooks setting depth playbooks session = some (outcomes, after)) :
    ∃ stopped stoppedAfter,
      runPlaybooks (setting.under .abortRun) depth playbooks session =
        some (stopped, stoppedAfter) ∧
      stoppedAfter.events <+: after.events ∧ stoppedAfter.sent <+: after.sent ∧
      (NoneAbortsEarly stopped ∨ NoneAbortsEarly outcomes →
        stopped = outcomes ∧ stoppedAfter = after) := by
  have alike : (FailurePolicy.abortRun != .continueStages) =
      (setting.policy != .continueStages) := by rw [goesOn]; rfl
  induction playbooks generalizing session outcomes with
  | nil =>
      cases ran
      exact ⟨[], _, rfl, List.prefix_rfl, List.prefix_rfl, fun _ => ⟨rfl, rfl⟩⟩
  | cons playbook rest inductionHypothesis =>
      obtain ⟨status, between, firstRan, continued⟩ := runPlaybooks_cons_eq_some_iff.1 ran
      rcases continued with ⟨-, stops, -⟩ | ⟨-, later, restRan, rfl⟩
      · rw [goesOn] at stops
        cases stops
      · have sameFirst : runPlaybook (setting.under .abortRun)
            (acquireWithin (setting.under .abortRun) depth) playbook.name playbook.stages
            session = some (status, between) := by
          rw [runPlaybook_under alike, acquireWithin_under alike, firstRan]
        cases status with
        | completed =>
            obtain ⟨stopped, stoppedAfter, stoppedRan, events, sent, same⟩ :=
              inductionHypothesis restRan
            refine ⟨_, stoppedAfter, runPlaybooks_cons_eq_some_iff.2
              ⟨.completed, between, sameFirst, .inr ⟨.inl rfl, stopped, stoppedRan, rfl⟩⟩,
              events, sent, fun none => ?_⟩
            obtain ⟨rfl, rfl⟩ := same (none.imp NoneAbortsEarly.of_cons NoneAbortsEarly.of_cons)
            exact ⟨rfl, rfl⟩
        | failed =>
            obtain ⟨events, sent⟩ := runPlaybooks_grows restRan
            refine ⟨_, between, runPlaybooks_cons_eq_some_iff.2
              ⟨.failed, between, sameFirst, .inl ⟨rfl, rfl, rfl, rfl⟩⟩, events, sent,
              fun none => ?_⟩
            -- The playbook that aborts is the last one, so that no other one is skipped.
            have noMore : rest = [] := by
              rcases none with stoppedNone | goingNone
              · exact List.map_eq_nil_iff.1 stoppedNone.last
              · obtain ⟨traces, runs, -⟩ := runPlaybooks_traced restRan
                have named := runs.named
                rw [goingNone.last, List.map_nil] at named
                exact List.map_eq_nil_iff.1 named.symm
            subst noMore
            cases restRan
            exact ⟨rfl, rfl⟩

/-! ## Runs without a failure -/

end Execution

/-- An event that tells of a stage's failure. -/
def Event.TellsFailure : Event → Prop
  | .prepareFailed _ | .transportFailed _ => True
  | _ => False

namespace Execution

/-- Events of which none tells of a failure. -/
def Untroubled (events : List Event) : Prop :=
  ∀ event ∈ events, ¬ event.TellsFailure

theorem Untroubled.before {session : Session} {acts : List Act}
    (untroubled : Untroubled (session.perform acts).events) : Untroubled session.events := by
  rw [Session.events_perform] at untroubled
  exact (List.forall_mem_append.1 untroubled).1

theorem Attempt.tells_failure {made : Attempt} (failed : made.status = .failed) :
    ∃ event ∈ eventsOf made.acts, event.TellsFailure := by
  cases made with
  | unprepared error => exact ⟨.prepareFailed error, by simp [Attempt.acts], trivial⟩
  | unanswered request operationId error =>
      exact ⟨.transportFailed error, by simp [Attempt.acts], trivial⟩
  | answered => cases failed

theorem StageTrace.tells_failure {trace : StageTrace} (failed : trace.status = .failed) :
    ∃ event ∈ eventsOf trace.acts, event.TellsFailure := by
  cases trace with
  | unresolved stage error =>
      exact ⟨.prepareFailed (.unresolved error), by simp [StageTrace.acts], trivial⟩
  | resolved stage auth request made =>
      obtain ⟨event, member, tells⟩ := Attempt.tells_failure failed
      refine ⟨event, ?_, tells⟩
      rw [StageTrace.acts, eventsOf_append, eventsOf_tell, eventsOf_substitute]
      simp [member]

/-- Where nothing tells of a failure, what one acquirer does the other one does too. -/
def Acquirer.Covers (one other : Acquirer) : Prop :=
  ∀ entry session result worked, one entry session = some (result, worked) →
    Untroubled worked.events → other entry session = some (result, worked)

section Untroubled

variable {setting : Setting} (policy : FailurePolicy) {acquirer other : Acquirer}
  {session after : Session} {status : StageStatus}
  (traced : acquirer.Traced setting) (covers : acquirer.Covers other)
  (untroubled : Untroubled after.events)

include traced covers untroubled

theorem authorize_untroubled {entries : List String} {authorization : Authorization}
    (ran : authorize acquirer entries session = some (authorization, after)) :
    authorize other entries session = some (authorization, after) := by
  induction entries generalizing session authorization with
  | nil => exact ran
  | cons entry rest inductionHypothesis =>
      rw [authorize_cons_eq_some_iff] at ran ⊢
      obtain ⟨result, worked, more, first, restRan, made⟩ := ran
      obtain ⟨traces, -, performed⟩ := authorize_traced traced restRan
      have firstUntroubled : Untroubled worked.events := by
        have adopted : Untroubled ((worked.adopt result).tell (.authFinished entry)).events :=
          (performed ▸ untroubled).before
        have told := (List.forall_mem_append.1 adopted).1
        cases result <;> exact told
      exact ⟨result, worked, more, covers _ _ _ _ first firstUntroubled,
        inductionHypothesis restRan, made⟩

theorem runStage_untroubled {stage : Stage}
    (ran : runStage setting acquirer stage session = some (status, after)) :
    status = .completed ∧
      runStage (setting.under policy) other stage session = some (status, after) := by
  obtain ⟨trace, -, rfl, performed⟩ := runStage_traced traced ran
  constructor
  · cases ended : trace.status with
    | completed => rfl
    | failed =>
        obtain ⟨event, member, tells⟩ := StageTrace.tells_failure ended
        refine absurd tells (untroubled event ?_)
        rw [performed, Session.events_perform]
        exact List.mem_append_right _ member
  · rw [runStage_eq_some_iff] at ran ⊢
    refine ran.imp_right ?_
    rintro ⟨resolved, authorization, authorized, found, entries, made⟩
    have authorizedUntroubled : Untroubled authorized.events := by
      rw [runAuthorized_eq_perform] at made
      have last : after = authorized.perform _ := (congrArg Prod.snd made).symm
      exact (last ▸ untroubled).before
    exact ⟨resolved, authorization, authorized, found,
      authorize_untroubled traced covers authorizedUntroubled entries, made⟩

theorem runStages_untroubled {stages : List Stage}
    (ran : runStages setting acquirer stages session = some (status, after)) :
    status = .completed ∧
      runStages (setting.under policy) other stages session = some (status, after) := by
  induction stages generalizing session status with
  | nil =>
      cases ran
      exact ⟨rfl, rfl⟩
  | cons stage rest inductionHypothesis =>
      obtain ⟨first, between, firstRan, continued⟩ := runStages_cons_eq_some_iff.1 ran
      have betweenUntroubled : Untroubled between.events := by
        rcases continued with ⟨-, -, -, rfl⟩ | ⟨-, later, laterRan, -⟩
        · exact untroubled
        · obtain ⟨traces, -, -, performed⟩ := runStages_traced traced laterRan
          exact (performed ▸ untroubled).before
      obtain ⟨rfl, sameFirst⟩ :=
        runStage_untroubled policy traced covers betweenUntroubled firstRan
      rcases continued with ⟨failed, -⟩ | ⟨-, later, laterRan, rfl⟩
      · cases failed
      · obtain ⟨rfl, sameLater⟩ := inductionHypothesis laterRan
        exact ⟨rfl, runStages_cons_eq_some_iff.2
          ⟨.completed, between, sameFirst, .inr ⟨.inl rfl, .completed, sameLater, rfl⟩⟩⟩

theorem runPlaybook_untroubled {name : String} {stages : List Stage}
    (ran : runPlaybook setting acquirer name stages session = some (status, after)) :
    status = .completed ∧
      runPlaybook (setting.under policy) other name stages session = some (status, after) := by
  obtain ⟨between, stagesRan, rfl⟩ := runPlaybook_eq_some_iff.1 ran
  have betweenUntroubled : Untroubled between.events := (List.forall_mem_append.1 untroubled).1
  obtain ⟨completed, same⟩ :=
    runStages_untroubled policy traced covers betweenUntroubled stagesRan
  exact ⟨completed, runPlaybook_eq_some_iff.2 ⟨between, same, rfl⟩⟩

end Untroubled

theorem acquire_covers {setting : Setting} (policy : FailurePolicy) {acquirer other : Acquirer}
    (traced : acquirer.Traced setting) (covers : acquirer.Covers other) :
    (acquire setting acquirer).Covers (acquire (setting.under policy) other) := by
  intro entry session result worked ran untroubled
  rw [acquire_eq_some_iff] at ran ⊢
  refine ran.imp_right ?_
  rintro ⟨requirement, copy, acquired, met, methodRan, filled, handed, rfl⟩
  refine ⟨requirement, copy, acquired, met, ?_, filled, handed, rfl⟩
  rw [runMethod_eq_some_iff] at methodRan ⊢
  refine methodRan.imp_right ?_
  rintro ⟨staged, status, playbookRan⟩
  have copyUntroubled : Untroubled copy.events := untroubled
  exact ⟨staged, status, (runPlaybook_untroubled policy traced covers copyUntroubled playbookRan).2⟩

theorem acquireWithin_covers (setting : Setting) (policy : FailurePolicy) (depth : Nat) :
    (acquireWithin setting depth).Covers (acquireWithin (setting.under policy) depth) := by
  induction depth with
  | zero =>
      intro entry session result worked ran
      cases ran
  | succ depth inductionHypothesis =>
      exact acquire_covers policy (acquireWithin_traced setting depth) inductionHypothesis

theorem runPlaybooks_untroubled {setting : Setting} (policy : FailurePolicy) {depth : Nat}
    {playbooks : List Playbook} {session after : Session} {outcomes : List PlaybookOutcome}
    (untroubled : Untroubled after.events)
    (ran : runPlaybooks setting depth playbooks session = some (outcomes, after)) :
    runPlaybooks (setting.under policy) depth playbooks session = some (outcomes, after) := by
  induction playbooks generalizing session outcomes with
  | nil => exact ran
  | cons playbook rest inductionHypothesis =>
      obtain ⟨status, between, firstRan, continued⟩ := runPlaybooks_cons_eq_some_iff.1 ran
      have betweenUntroubled : Untroubled between.events := by
        rcases continued with ⟨-, -, -, rfl⟩ | ⟨-, later, laterRan, -⟩
        · exact untroubled
        · obtain ⟨traces, -, performed⟩ := runPlaybooks_traced laterRan
          exact (performed ▸ untroubled).before
      obtain ⟨rfl, sameFirst⟩ := runPlaybook_untroubled policy
        (acquireWithin_traced setting depth) (acquireWithin_covers setting policy depth)
        betweenUntroubled firstRan
      rcases continued with ⟨failed, -⟩ | ⟨-, later, restRan, rfl⟩
      · cases failed
      · exact runPlaybooks_cons_eq_some_iff.2 ⟨.completed, between, sameFirst,
          .inr ⟨.inl rfl, later, inductionHypothesis restRan, rfl⟩⟩

/-! ## Stages that complete at every depth -/

/-- The stages of a playbook that acquires a credential, each with the session it starts
in. -/
def Acquiring.stages (part : Acquiring) : List (Session × StageTrace) :=
  stagesFrom (part.session.tell (.playbookStarted part.playbook.name)) part.playbook.stages

/-- Stages of which each one completes. -/
def Complete (stages : List (Session × StageTrace)) : Prop :=
  ∀ here ∈ stages, here.2.status = .completed

theorem untroubled_attempt {made : Attempt} (completed : made.status = .completed) :
    Untroubled (eventsOf made.acts) := by
  cases made with
  | unprepared | unanswered => cases completed
  | answered request operationId response assigned failures =>
      rw [Attempt.events_answered]
      cases assigned <;> simp [Untroubled, Event.TellsFailure, Attempt.failureEvent]

mutual

theorem PlaybookTrace.untroubled (session : Session) :
    (trace : PlaybookTrace) →
      Complete (stagesFrom (session.tell (.playbookStarted trace.name)) trace.stages) →
      (∀ part ∈ trace.acquisitionsFrom session, Complete part.stages) →
      Untroubled (eventsOf trace.acts)
  | .mk name stages, own, nested => by
      rw [PlaybookTrace.acts, eventsOf_tell, eventsOf_append]
      refine List.forall_mem_cons.2 ⟨id, List.forall_mem_append.2 ⟨?_, ?_⟩⟩
      · exact stages_untroubled _ stages own nested
      · cases statusOfStages stages <;> exact List.forall_mem_singleton.2 id

theorem stages_untroubled (session : Session) :
    (stages : List StageTrace) → Complete (stagesFrom session stages) →
      (∀ part ∈ stagesAcquisitionsFrom session stages, Complete part.stages) →
      Untroubled (eventsOf (stagesActs stages))
  | [], _, _ => by simp [stagesActs, Untroubled]
  | stage :: rest, own, nested => by
      rw [stagesAcquisitionsFrom] at nested
      obtain ⟨completed, restComplete⟩ := List.forall_mem_cons.1 own
      obtain ⟨nestedHere, nestedLater⟩ := List.forall_mem_append.1 nested
      rw [stagesActs, eventsOf_append]
      exact List.forall_mem_append.2 ⟨stage.untroubled session completed nestedHere,
        stages_untroubled _ rest restComplete nestedLater⟩

theorem StageTrace.untroubled (session : Session) :
    (stage : StageTrace) → stage.status = .completed →
      (∀ part ∈ stage.acquisitionsFrom session, Complete part.stages) →
      Untroubled (eventsOf stage.acts)
  | .unresolved stage error, completed, _ => by cases completed
  | .resolved stage auth request made, completed, nested => by
      rw [StageTrace.acquisitionsFrom] at nested
      rw [StageTrace.acts, eventsOf_append, eventsOf_tell, eventsOf_substitute]
      refine List.forall_mem_append.2 ⟨auth_untroubled session auth nested, ?_⟩
      exact List.forall_mem_cons.2 ⟨id, List.forall_mem_cons.2
        ⟨id, untroubled_attempt completed⟩⟩

theorem auth_untroubled (session : Session) :
    (auth : List AuthTrace) →
      (∀ part ∈ authAcquisitionsFrom session auth, Complete part.stages) →
      Untroubled (eventsOf (authActs auth))
  | [], _ => by simp [authActs, Untroubled]
  | first :: rest, nested => by
      rw [authAcquisitionsFrom] at nested
      obtain ⟨nestedHere, nestedLater⟩ := List.forall_mem_append.1 nested
      rw [authActs, eventsOf_append]
      exact List.forall_mem_append.2 ⟨first.untroubled session nestedHere,
        auth_untroubled _ rest nestedLater⟩

theorem AuthTrace.untroubled (session : Session) :
    (auth : AuthTrace) → (∀ part ∈ auth.acquisitionsFrom session, Complete part.stages) →
      Untroubled (eventsOf auth.acts)
  | .unmet entry, _ => by simp [AuthTrace.acts, Untroubled, Event.TellsFailure]
  | .direct entry scope, _ => by simp [AuthTrace.acts, Untroubled, Event.TellsFailure]
  | .staged entry playbook scope, nested => by
      rw [AuthTrace.acquisitionsFrom] at nested
      obtain ⟨own, inner⟩ := List.forall_mem_cons.1 nested
      rw [AuthTrace.acts, eventsOf_tell, eventsOf_append]
      refine List.forall_mem_cons.2 ⟨id, List.forall_mem_append.2
        ⟨playbook.untroubled _ own inner, ?_⟩⟩
      simp [Event.TellsFailure]

end

theorem playbooks_untroubled (session : Session) (traces : List PlaybookTrace)
    (own : ∀ here ∈ playbooksFrom session traces,
      Complete (stagesFrom (here.1.tell (.playbookStarted here.2.name)) here.2.stages))
    (nested : ∀ part ∈ runAcquisitions session traces, Complete part.stages) :
    Untroubled (traces.flatMap PlaybookTrace.events) := by
  induction traces generalizing session with
  | nil => simp [Untroubled]
  | cons trace rest inductionHypothesis =>
      rw [runAcquisitions, playbooksFrom, List.flatMap_cons] at nested
      obtain ⟨firstOwn, restOwn⟩ := List.forall_mem_cons.1 own
      obtain ⟨firstNested, restNested⟩ := List.forall_mem_append.1 nested
      rw [List.flatMap_cons]
      exact List.forall_mem_append.2 ⟨trace.untroubled session firstOwn firstNested,
        inductionHypothesis _ restOwn restNested⟩

/-- When the stages of a run complete at every depth, nothing tells of a failure. -/
theorem untroubled_of_complete {session : Session} {traces : List PlaybookTrace}
    (complete : Complete (runStagesFrom session traces)) :
    Untroubled (traces.flatMap PlaybookTrace.events) := by
  have parts := List.forall_mem_flatMap.1 complete
  obtain ⟨own, nested⟩ := List.forall_mem_append.1 parts
  refine playbooks_untroubled session traces own fun part member => ?_
  exact nested (part.session, part.playbook) (List.mem_map_of_mem member)

end Execution

/-! ## Runs -/

namespace Run

/-- Every stage of a run completes, also those that acquire credentials, at every depth. -/
def AllComplete (run : Run) (setting : Setting) (playbooks : List Playbook)
    (seed : ScopeStack) : Prop :=
  ∃ traces, PlaybooksRun setting (.start seed) playbooks traces run.outcome.playbooks ∧
    Complete (runStagesFrom (.start seed) traces)

theorem within_untroubled {setting : Setting} {depth : Nat} {playbooks : List Playbook}
    {seed : ScopeStack} {run : Run}
    (ended : Run.within depth setting playbooks seed = some run)
    (complete : run.AllComplete setting playbooks seed) (policy : FailurePolicy) :
    Run.within depth (setting.under policy) playbooks seed = some run := by
  obtain ⟨traces, runs, events⟩ : ∃ traces,
      PlaybooksRun setting (.start seed) playbooks traces run.outcome.playbooks ∧
        run.events = traces.flatMap PlaybookTrace.events := by
    obtain ⟨traces, runs, -, events⟩ := Run.traced ended
    exact ⟨traces, runs, events⟩
  obtain ⟨others, otherRuns, othersComplete⟩ := complete
  obtain ⟨rfl, -⟩ := otherRuns.unique runs
  have untroubled : Untroubled run.events := events ▸ untroubled_of_complete othersComplete
  simp only [Run.within, Option.bind_eq_bind, Option.bind_eq_some_iff] at ended ⊢
  obtain ⟨⟨outcomes, after⟩, ran, made⟩ := ended
  obtain rfl := Option.some.inj made
  exact ⟨(outcomes, after), runPlaybooks_untroubled policy untroubled ran, rfl⟩

/-- Runs of the same playbooks under different policies differ only after a failure. Ending
the run at the first aborted playbook does what going on to the next playbook does first,
and all of it when no playbook before the last one aborts. A run in which every stage
completes is the run under every policy. -/
theorem policies_part_at_failures (bundle : Bundle) (transport : Transport)
    (playbooks : List Playbook) (seed : ScopeStack) :
    (∀ depth run,
      Run.within depth ⟨bundle, transport, .abortPlaybook⟩ playbooks seed = some run →
        ∃ stopped,
          Run.within depth ⟨bundle, transport, .abortRun⟩ playbooks seed = some stopped ∧
          stopped.events <+: run.events ∧ stopped.sent <+: run.sent ∧
          (NoneAbortsEarly stopped.outcome.playbooks ∨ NoneAbortsEarly run.outcome.playbooks →
            stopped = run)) ∧
    ∀ policy depth run,
      Run.within depth ⟨bundle, transport, policy⟩ playbooks seed = some run →
      run.AllComplete ⟨bundle, transport, policy⟩ playbooks seed →
        ∀ other, Run.within depth ⟨bundle, transport, other⟩ playbooks seed = some run := by
  constructor
  · intro depth run ended
    simp only [Run.within, Option.bind_eq_bind, Option.bind_eq_some_iff, Option.some.injEq]
      at ended
    obtain ⟨⟨outcomes, after⟩, ran, rfl⟩ := ended
    obtain ⟨stopped, stoppedAfter, stoppedRan, events, sent, same⟩ :=
      runPlaybooks_abortRun rfl ran
    refine ⟨⟨⟨stoppedAfter.stack, stopped⟩, stoppedAfter.events, stoppedAfter.sent⟩, ?_,
      events, sent, fun none => ?_⟩
    · simp only [Run.within, Option.bind_eq_bind, Option.bind_eq_some_iff]
      exact ⟨(stopped, stoppedAfter), stoppedRan, rfl⟩
    · obtain ⟨rfl, rfl⟩ := same none
      rfl
  · intro policy depth run ended complete other
    exact within_untroubled ended complete other

end Run

/-! ## A missing request, then a ping -/

def pingContent : StageContent :=
  ⟨none, ⟨"GET", "http://[::1]/", .none, none⟩, [], none, ∅⟩

def pinged : List Playbook := [⟨"Ping", [.inline pingContent ∅]⟩]

def missingThenPinged : List Playbook := ⟨"Missing", [.reference (.request "none") ∅]⟩ :: pinged

/-- Runs over the empty bundle. -/
def pingSetting (policy : FailurePolicy) : Setting :=
  ⟨.empty, .constant (.ofStatus 200), policy⟩

/-- The request of the ping, and what comes of it. -/
def pingTrace : StageTrace :=
  let request := substituteStage .empty (.inline pingContent ∅) pingContent
  .resolved (.inline pingContent ∅) [] request
    (attempt (pingSetting .abortPlaybook) [] (.inline pingContent ∅) (.ofContent pingContent)
      ⟨[], none⟩ request.template)

theorem pinged_allComplete {run : Run}
    (ended : Run.within 1 (pingSetting .abortPlaybook) pinged .empty = some run) :
    run.AllComplete (pingSetting .abortPlaybook) pinged .empty := by
  obtain ⟨traces, runs, -⟩ := Run.traced ended
  have answered : pingTrace.status = .completed := by decide +kernel
  have expected : PlaybooksRun (pingSetting .abortPlaybook) (.start .empty) pinged
      [.mk "Ping" [pingTrace]] _ :=
    .next (.mk (.next (.resolved rfl .done rfl rfl) (.inl answered) .done))
      (.inr (by decide)) .done
  obtain ⟨rfl, -⟩ := expected.unique runs
  refine ⟨_, runs, fun here member => ?_⟩
  obtain rfl := List.mem_singleton.1 member
  exact answered

/-- The missing request aborts its playbook: one policy pings all the same, the other one
does not. The ping alone is the same under every policy. -/
theorem missingThenPinged_policies :
    (∃ run stopped,
      Run.within 1 (pingSetting .abortPlaybook) missingThenPinged .empty = some run ∧
      Run.within 1 (pingSetting .abortRun) missingThenPinged .empty = some stopped ∧
      stopped.events <+: run.events ∧ stopped.sent <+: run.sent ∧
      stopped.sent.length = 0 ∧ run.sent.length = 1) ∧
    ∃ run, Run.within 1 (pingSetting .abortPlaybook) pinged .empty = some run ∧
      Run.within 1 (pingSetting .continueStages) pinged .empty = some run ∧
      Run.within 1 (pingSetting .abortRun) pinged .empty = some run ∧
      run.sent.length = 1 := by
  constructor
  · obtain ⟨run, ended, sentOnce⟩ := Option.map_eq_some_iff.1
      (show (Run.within 1 (pingSetting .abortPlaybook) missingThenPinged .empty).map
        (fun run => run.sent.length) = some 1 by decide +kernel)
    have sentNever : (Run.within 1 (pingSetting .abortRun) missingThenPinged .empty).map
        (fun run => run.sent.length) = some 0 := by decide +kernel
    obtain ⟨stopped, stoppedEnded, events, sent, -⟩ := (Run.policies_part_at_failures .empty
      (.constant (.ofStatus 200)) missingThenPinged .empty).1 1 run ended
    have stoppedLength : stopped.sent.length = 0 := by
      simpa only [pingSetting, stoppedEnded, Option.map_some, Option.some.injEq] using sentNever
    exact ⟨run, stopped, ended, stoppedEnded, events, sent, stoppedLength, sentOnce⟩
  · obtain ⟨run, ended, sentOnce⟩ := Option.map_eq_some_iff.1
      (show (Run.within 1 (pingSetting .abortPlaybook) pinged .empty).map
        (fun run => run.sent.length) = some 1 by decide +kernel)
    have same := (Run.policies_part_at_failures .empty (.constant (.ofStatus 200)) pinged
      .empty).2 .abortPlaybook 1 run ended (pinged_allComplete ended)
    exact ⟨run, ended, same .continueStages, same .abortRun, sentOnce⟩

end RequestFlow
