import Mathlib.Data.List.Induction
import RequestFlow.Proofs.Acquisition.Termination
import RequestFlow.Proofs.Run.Tracing

/-!
Contract: the stack of a run is a log that its events determine.

Owns: the log of a list of events, which takes no more than the bundle and the first
variables; the invariant that the stack is the log wherever tokens are replaced, at every
depth of acquisitions; the stack that each event about replaced tokens carries; and that
variables, once set, stay.

Between the push of a scope and the event that tells of it the stack is ahead of the log,
so the invariant is not one of single acts. It holds before and after each stage, entry
and playbook, and where a stage's tokens are replaced.
-/

namespace RequestFlow

/-! ## The log -/

/-- The scopes that count from an event on: what rules set, or the credential that an
acquisition ends with. -/
def Bundle.scopesOf (bundle : Bundle) (stack : ScopeStack) : Event → List Scope
  | .variablesAssigned scope => [scope]
  | .authFinished entry =>
      match bundle.requirement entry with
      | .error _ => []
      | .ok requirement =>
          let value := (Substitution.text stack .none requirement.method.credential).value
          [.plain ("auth:" ++ requirement.name)
            (Dict.ofList [(requirement.name, .string value)])]
  | _ => []

/-- The scopes of some events. Each is made with the first variables and the scopes
before it. -/
def Bundle.log (bundle : Bundle) (seed : ScopeStack) (events : List Event) : List Scope :=
  events.foldl (fun log event => log ++ bundle.scopesOf (seed.extend log) event) []

theorem log_concat (bundle : Bundle) (seed : ScopeStack) (events : List Event)
    (event : Event) :
    bundle.log seed (events ++ [event]) =
      bundle.log seed events ++
        bundle.scopesOf (seed.extend (bundle.log seed events)) event := by
  simp only [Bundle.log, List.foldl_append, List.foldl_cons, List.foldl_nil]

/-- What is in the log stays in it. -/
theorem log_prefix (bundle : Bundle) (seed : ScopeStack) {before later : List Event}
    (earlier : before <+: later) : bundle.log seed before <+: bundle.log seed later := by
  obtain ⟨more, rfl⟩ := earlier
  induction more using List.reverseRecOn with
  | nil => simp only [List.append_nil, List.prefix_rfl]
  | append_singleton more event inductionHypothesis =>
      rw [← List.append_assoc, log_concat]
      exact inductionHypothesis.trans (List.prefix_append _ _)

/-- A variable that a stack has is one of every longer stack too. -/
theorem lookup?_extend_isSome {stack : ScopeStack} {scopes more : List Scope} {name : String}
    (known : ((stack.extend scopes).lookup? name).isSome) (longer : scopes <+: more) :
    ((stack.extend more).lookup? name).isSome := by
  obtain ⟨added, rfl⟩ := longer
  simp only [ScopeStack.lookup?, ScopeStack.lookupScope?, ScopeStack.extend,
    Option.isSome_map] at known ⊢
  rw [← List.append_assoc, List.reverse_append, List.findSome?_append, Option.isSome_or,
    known, Bool.or_true]

/-- The stack that a stage's tokens are replaced with. The stage's own variables, if it
has any, are one more scope, made with the stack below it. -/
def stageStack (stack : ScopeStack) (stage : Stage) : ScopeStack :=
  if stage.environment.isEmpty then stack
  else stack.push
    (.plain "stage" (Substitution.values stack .none stage.environment).value)

namespace Execution

/-! ## The invariant -/

section Invariant

variable {bundle : Bundle} {seed : ScopeStack}

/-- The stack of a session is the log of its events on top of the first variables. -/
def Logged (bundle : Bundle) (seed : ScopeStack) (session : Session) : Prop :=
  session.stack = seed.extend (bundle.log seed session.events)

theorem logged_start : Logged bundle seed (.start seed) := by
  show seed = ⟨seed.scopes ++ []⟩
  rw [List.append_nil]

theorem Logged.tell {session : Session} (logged : Logged bundle seed session) (event : Event)
    (silent : bundle.scopesOf session.stack event = []) :
    Logged bundle seed (session.tell event) := by
  show session.stack = seed.extend (bundle.log seed (session.events ++ [event]))
  rw [log_concat, ← logged, silent, List.append_nil]
  exact logged

theorem Logged.push_tell {session : Session} (logged : Logged bundle seed session)
    (scope : Scope) (event : Event)
    (told : bundle.scopesOf session.stack event = [scope]) :
    Logged bundle seed ((session.push scope).tell event) := by
  show session.stack.push scope = seed.extend (bundle.log seed (session.events ++ [event]))
  rw [log_concat, ← logged, told]
  rw [show session.stack = seed.extend (bundle.log seed session.events) from logged]
  simp only [ScopeStack.push, ScopeStack.extend, List.append_assoc]

/-- What is asked of one act: tokens are replaced with the log, and told of only in the
act that replaces them. -/
def Fits (bundle : Bundle) (seed : ScopeStack) (session : Session) : Act → Prop
  | .substitute stage request =>
      Logged bundle seed session ∧ request.stack = stageStack session.stack stage
  | .tell (.variablesSubstituted ..) => False
  | .tell _ | .push _ | .send _ => True

/-- Each act fits, and in the end the stack is the log. -/
def FollowsLog (bundle : Bundle) (seed : ScopeStack) : Session → List Act → Prop
  | session, [] => Logged bundle seed session
  | session, act :: rest =>
      Fits bundle seed session act ∧ FollowsLog bundle seed (session.act act) rest

theorem FollowsLog.logged {session : Session} {acts : List Act}
    (follows : FollowsLog bundle seed session acts) :
    Logged bundle seed (session.perform acts) := by
  induction acts generalizing session with
  | nil => exact follows
  | cons act rest inductionHypothesis => exact inductionHypothesis follows.2

theorem FollowsLog.append {session : Session} {acts later : List Act}
    (follows : FollowsLog bundle seed session acts)
    (next : FollowsLog bundle seed (session.perform acts) later) :
    FollowsLog bundle seed session (acts ++ later) := by
  induction acts generalizing session with
  | nil => exact next
  | cons act rest inductionHypothesis =>
      exact ⟨follows.1, inductionHypothesis follows.2 next⟩

theorem FollowsLog.fits {session : Session} {told rest : List Act} {act : Act}
    (follows : FollowsLog bundle seed session (told ++ act :: rest)) :
    Fits bundle seed (session.perform told) act := by
  induction told generalizing session with
  | nil => exact follows.1
  | cons first told inductionHypothesis => exact inductionHypothesis follows.2

end Invariant

/-! ## What the parts of a run preserve -/

section Attempt

variable {bundle : Bundle} {seed : ScopeStack} {session : Session}

theorem follows_failures (logged : Logged bundle seed session)
    (failures : List AssignmentFailure) :
    FollowsLog bundle seed session
      (failures.map fun failure => .tell (Attempt.failureEvent failure)) := by
  induction failures generalizing session with
  | nil => exact logged
  | cons failure rest inductionHypothesis =>
      exact ⟨trivial, inductionHypothesis (logged.tell _ rfl)⟩

theorem follows_attempt (logged : Logged bundle seed session) (attempt : Attempt) :
    FollowsLog bundle seed session attempt.acts := by
  cases attempt with
  | unprepared error => exact ⟨trivial, logged.tell _ rfl⟩
  | unanswered request operationId error =>
      exact ⟨trivial, trivial, trivial, (logged.tell _ rfl).tell _ rfl⟩
  | answered request operationId response assigned failures =>
      have prepared := logged.tell (.requestPrepared request operationId) rfl
      have received : Logged bundle seed
          (((session.tell (.requestPrepared request operationId)).recordSent request).tell
            (.responseReceived response)) :=
        Logged.tell prepared _ rfl
      refine ⟨trivial, trivial, trivial, ?_⟩
      cases assigned with
      | none => exact follows_failures received failures
      | some scope =>
          have assigned := received.push_tell scope (.variablesAssigned scope) rfl
          exact ⟨trivial, trivial, follows_failures assigned failures⟩

theorem fits_closing (name : String) (status : StageStatus) :
    Fits bundle seed session (.tell (closing name status)) := by
  cases status <;> exact trivial

end Attempt

mutual

theorem PlaybookRuns.followsLog {setting : Setting} {seed : ScopeStack} {session : Session}
    {name : String} {stages : List Stage} {trace : PlaybookTrace} :
    PlaybookRuns setting session name stages trace → Logged setting.bundle seed session →
      FollowsLog setting.bundle seed session trace.acts
  | .mk runs, logged => by
      rw [PlaybookTrace.acts]
      have inside := runs.followsLog (logged.tell _ rfl)
      refine ⟨trivial, inside.append ⟨fits_closing _ _, inside.logged.tell _ ?_⟩⟩
      cases statusOfStages _ <;> rfl

theorem StagesRun.followsLog {setting : Setting} {seed : ScopeStack} {session : Session}
    {stages : List Stage} {traces : List StageTrace} :
    StagesRun setting session stages traces → Logged setting.bundle seed session →
      FollowsLog setting.bundle seed session (stagesActs traces)
  | .done, logged => logged
  | .stopped first _ _, logged => by
      rw [stagesActs, stagesActs, List.append_nil]
      exact first.followsLog logged
  | .next first _ later, logged => by
      rw [stagesActs]
      have here := first.followsLog logged
      exact here.append (later.followsLog here.logged)

theorem StageRuns.followsLog {setting : Setting} {seed : ScopeStack} {session : Session}
    {stage : Stage} {trace : StageTrace} :
    StageRuns setting session stage trace → Logged setting.bundle seed session →
      FollowsLog setting.bundle seed session trace.acts
  | .unresolved _, logged => ⟨trivial, trivial, (logged.tell _ rfl).tell _ rfl⟩
  | .resolved _ entries after substituted, logged => by
      rw [StageTrace.acts]
      have authorized := entries.followsLog logged
      have started := authorized.logged.tell (.requestStarted stage.target?) rfl
      subst after substituted
      refine authorized.append ⟨trivial, ⟨started, rfl⟩, follows_attempt ?_ _⟩
      exact started.tell _ rfl

theorem EntriesRun.followsLog {setting : Setting} {seed : ScopeStack} {session : Session}
    {entries : List String} {traces : List AuthTrace} {authorization : Authorization} :
    EntriesRun setting session entries traces authorization →
      Logged setting.bundle seed session →
      FollowsLog setting.bundle seed session (authActs traces)
  | .done, logged => logged
  | .next first later, logged => by
      rw [authActs]
      have here := first.followsLog logged
      exact here.append (later.followsLog here.logged)

theorem EntryRuns.followsLog {setting : Setting} {seed : ScopeStack} {session : Session}
    {entry : String} {trace : AuthTrace} {result : Except AuthError AcquiredCredential} :
    EntryRuns setting session entry trace result → Logged setting.bundle seed session →
      FollowsLog setting.bundle seed session trace.acts
  | .unmet failure, logged => by
      refine ⟨trivial, trivial, (logged.tell _ rfl).tell _ ?_⟩
      simp only [Bundle.scopesOf, failure]
  | .direct met _ filled, logged => by
      refine ⟨trivial, trivial, trivial, (logged.tell _ rfl).push_tell _ _ ?_⟩
      simp only [Bundle.scopesOf, met, filled]
      rfl
  | .staged met _ runs filled, logged => by
      rw [AuthTrace.acts]
      have inside := runs.followsLog (logged.tell _ rfl)
      refine ⟨trivial, inside.append ⟨trivial, trivial, inside.logged.push_tell _ _ ?_⟩⟩
      simp only [Bundle.scopesOf, met, filled]
      rfl

end

theorem PlaybooksRun.followsLog {setting : Setting} {seed : ScopeStack} {session : Session}
    {playbooks : List Playbook} {traces : List PlaybookTrace} {outcomes : List PlaybookOutcome}
    (runs : PlaybooksRun setting session playbooks traces outcomes)
    (logged : Logged setting.bundle seed session) :
    FollowsLog setting.bundle seed session (traces.flatMap PlaybookTrace.acts) := by
  induction runs with
  | done => exact logged
  | stopped first _ _ =>
      rw [List.flatMap_singleton]
      exact first.followsLog logged
  | next first _ _ inductionHypothesis =>
      rw [List.flatMap_cons]
      have here := first.followsLog logged
      exact here.append (inductionHypothesis here.logged)

/-! ## Events among acts -/

/-- An event is told by an act, after the acts that tell the events before it. -/
theorem exists_act_of_event {acts : List Act} {before after : List Event} {event : Event}
    (told : eventsOf acts = before ++ event :: after) :
    ∃ first act rest, acts = first ++ act :: rest ∧ eventsOf first = before ∧
      act.event? = some event := by
  obtain ⟨first, others, rfl, earlier, later⟩ := List.filterMap_eq_append_iff.1 told
  obtain ⟨silent, act, rest, rfl, quiet, tells, -⟩ := List.filterMap_eq_cons_iff.1 later
  refine ⟨first ++ silent, act, rest, by simp, ?_, tells⟩
  rw [eventsOf_append, eventsOf, earlier, eventsOf, List.filterMap_eq_nil_iff.2 quiet,
    List.append_nil]

/-- Tokens that are told of as replaced were replaced with the log of the events before. -/
theorem FollowsLog.substituted {bundle : Bundle} {seed : ScopeStack} {acts : List Act}
    (follows : FollowsLog bundle seed (.start seed) acts) {before after : List Event}
    {stack : ScopeStack} {found missing : List String}
    (told : eventsOf acts = before ++ .variablesSubstituted stack found missing :: after) :
    ∃ first stage request rest, acts = first ++ .substitute stage request :: rest ∧
      eventsOf first = before ∧
      stack = stageStack (seed.extend (bundle.log seed before)) stage := by
  obtain ⟨first, act, rest, rfl, rfl, tells⟩ := exists_act_of_event told
  have fits := follows.fits
  have events : ((Session.start seed).perform first).events = eventsOf first :=
    Session.events_perform (.start seed) first
  cases act with
  | push scope => cases tells
  | send request => cases tells
  | tell event =>
      cases tells
      exact fits.elim
  | substitute stage request =>
      cases tells
      obtain ⟨logged, made⟩ := fits
      refine ⟨first, stage, request, rest, rfl, rfl, ?_⟩
      rw [made, ← events]
      exact congrArg (stageStack · stage) logged

end Execution

/-! ## The stacks of runs -/

open Execution

/-- The stack of a run that ends is the log of its events on the first variables. So is
the stack that any of its events about replaced tokens carries, up to this event, with a
scope of the stage on top if the stage has variables. The log only grows, and a variable
that it has, it keeps. -/
theorem Run.stack_eq_log {setting : Setting} {depth : Nat} {playbooks : List Playbook}
    {seed : ScopeStack} {run : Run}
    (ended : Run.within depth setting playbooks seed = some run) :
    run.outcome.stack = seed.extend (setting.bundle.log seed run.events) ∧
      (∃ traces, PlaybooksRun setting (.start seed) playbooks traces run.outcome.playbooks ∧
        run.events = traces.flatMap PlaybookTrace.events ∧
        ∀ before stack found missing after,
          run.events = before ++ .variablesSubstituted stack found missing :: after →
            ∃ first stage request rest,
              traces.flatMap PlaybookTrace.acts = first ++ .substitute stage request :: rest ∧
              eventsOf first = before ∧
              stack = stageStack (seed.extend (setting.bundle.log seed before)) stage) ∧
      ∀ before later, before <+: later → later <+: run.events →
        setting.bundle.log seed before <+: setting.bundle.log seed later ∧
        ∀ name, ((seed.extend (setting.bundle.log seed before)).lookup? name).isSome →
          ((seed.extend (setting.bundle.log seed later)).lookup? name).isSome := by
  obtain ⟨traces, runs, performed, events⟩ := Run.traced ended
  have follows := runs.followsLog logged_start
  have logged := follows.logged
  rw [performed] at logged
  refine ⟨logged, ⟨traces, runs, events, ?_⟩, ?_⟩
  · intro before stack found missing after split
    rw [events, ← eventsOf_flatMap] at split
    exact follows.substituted split
  · intro before later earlier _
    have grown := log_prefix setting.bundle seed earlier
    exact ⟨grown, fun name known => lookup?_extend_isSome known grown⟩

/-- The run of a request that asks for a login: the credentials that were acquired on the
way stay on its stack. -/
theorem loginAsked_stack_eq_log :
    ∃ run, Run.within 4 loginSetting loginAsked .empty = some run ∧
      run.outcome.stack = ScopeStack.empty.extend
        ((loginByReference ["key"]).log .empty run.events) := by
  obtain ⟨run, ended⟩ := exists_run_loginAsked
  exact ⟨run, ended, (Run.stack_eq_log ended).1⟩

end RequestFlow
