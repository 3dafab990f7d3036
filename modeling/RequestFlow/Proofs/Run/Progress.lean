import Mathlib.Logic.Relation
import RequestFlow.Proofs.Run.Tracing

/-!
Contract: how far a run has come, whether it ends or not.

Owns: the points of a run, each a session and what is next; the steps from a point to the
next one; the stages and entries that can come up at all; and the origin of every failure
to prepare a request that was told of up to a point.

A step skips a part that has ended, or goes into it. So the points of a run that never ends
are reached too: a part without an end is gone into and never skipped.
-/

namespace RequestFlow

open Relation

/-! ## What comes after a failure -/

/-- The stages that are still run after one of them. -/
def FailurePolicy.stagesAfter (policy : FailurePolicy) (status : Execution.StageStatus)
    (rest : List Stage) : List Stage :=
  if status == .failed && policy != .continueStages then [] else rest

/-- The playbooks that are still run after one of them. -/
def FailurePolicy.playbooksAfter (policy : FailurePolicy) (status : Execution.StageStatus)
    (rest : List Playbook) : List Playbook :=
  if status == .failed && policy == .abortRun then [] else rest

theorem FailurePolicy.mem_of_mem_stagesAfter {policy : FailurePolicy}
    {status : Execution.StageStatus} {rest : List Stage} {stage : Stage}
    (member : stage ∈ policy.stagesAfter status rest) : stage ∈ rest := by
  unfold stagesAfter at member
  split at member
  · cases member
  · exact member

theorem FailurePolicy.mem_of_mem_playbooksAfter {policy : FailurePolicy}
    {status : Execution.StageStatus} {rest : List Playbook} {playbook : Playbook}
    (member : playbook ∈ policy.playbooksAfter status rest) : playbook ∈ rest := by
  unfold playbooksAfter at member
  split at member
  · cases member
  · exact member

theorem FailurePolicy.stagesAfter_of_goesOn {policy : FailurePolicy}
    {status : Execution.StageStatus} (goesOn : status = .completed ∨ policy = .continueStages)
    (rest : List Stage) : policy.stagesAfter status rest = rest := by
  rcases goesOn with rfl | rfl
  · rfl
  · cases status <;> rfl

theorem FailurePolicy.playbooksAfter_of_goesOn {policy : FailurePolicy}
    {status : Execution.StageStatus} (goesOn : status = .completed ∨ policy ≠ .abortRun)
    (rest : List Playbook) : policy.playbooksAfter status rest = rest := by
  rcases goesOn with rfl | continues
  · rfl
  · cases policy with
    | abortRun => exact absurd rfl continues
    | abortPlaybook => cases status <;> rfl
    | continueStages => cases status <;> rfl

namespace Execution

/-! ## Points -/

/-- What is next in a run. -/
inductive Task where
  | playbooks (playbooks : List Playbook)
  | stages (stages : List Stage)
  | stage (stage : Stage)
  | entries (entries : List String)
  | entry (entry : String)

structure Point where
  session : Session
  next : Task

section Ends

variable (setting : Setting) (session : Session)

/-- A playbook ends, however deep its acquisitions lie in one another. -/
def PlaybookEnds (name : String) (stages : List Stage) (status : StageStatus)
    (after : Session) : Prop :=
  ∃ depth, runPlaybook setting (acquireWithin setting depth) name stages session =
    some (status, after)

def StageEnds (stage : Stage) (status : StageStatus) (after : Session) : Prop :=
  ∃ depth, runStage setting (acquireWithin setting depth) stage session = some (status, after)

/-- The acquisition for an entry ends, and what it hands over is pushed. -/
def EntryEnds (entry : String) (after : Session) : Prop :=
  ∃ depth result worked,
    acquireWithin setting depth entry (session.tell (.authStarted entry)) =
      some (result, worked) ∧
    after = (worked.adopt result).tell (.authFinished entry)

end Ends

/-- One step of a run: into the first part of what is next, or over it when it has ended. -/
inductive Leads (setting : Setting) : Point → Point → Prop where
  | playbook {session : Session} {playbook : Playbook} {rest : List Playbook} :
      Leads setting ⟨session, .playbooks (playbook :: rest)⟩
        ⟨session.tell (.playbookStarted playbook.name), .stages playbook.stages⟩
  | afterPlaybook {session after : Session} {playbook : Playbook} {rest : List Playbook}
      {status : StageStatus}
      (ended : PlaybookEnds setting session playbook.name playbook.stages status after) :
      Leads setting ⟨session, .playbooks (playbook :: rest)⟩
        ⟨after, .playbooks (setting.policy.playbooksAfter status rest)⟩
  | stage {session : Session} {stage : Stage} {rest : List Stage} :
      Leads setting ⟨session, .stages (stage :: rest)⟩ ⟨session, .stage stage⟩
  | afterStage {session after : Session} {stage : Stage} {rest : List Stage}
      {status : StageStatus} (ended : StageEnds setting session stage status after) :
      Leads setting ⟨session, .stages (stage :: rest)⟩
        ⟨after, .stages (setting.policy.stagesAfter status rest)⟩
  | entries {session : Session} {stage : Stage} {resolved : ResolvedStage}
      (found : setting.bundle.resolve stage = .ok resolved) :
      Leads setting ⟨session, .stage stage⟩ ⟨session, .entries resolved.content.auth⟩
  | entry {session : Session} {entry : String} {rest : List String} :
      Leads setting ⟨session, .entries (entry :: rest)⟩
        ⟨session.tell (.authStarted entry), .entry entry⟩
  | afterEntry {session after : Session} {entry : String} {rest : List String}
      (ended : EntryEnds setting session entry after) :
      Leads setting ⟨session, .entries (entry :: rest)⟩ ⟨after, .entries rest⟩
  | method {session : Session} {entry : String} {requirement : Requirement}
      (met : setting.bundle.requirement entry = .ok requirement)
      (staged : requirement.method.requests ≠ []) :
      Leads setting ⟨session, .entry entry⟩
        ⟨session.tell (.playbookStarted requirement.name),
          .stages requirement.method.requests⟩

/-- The run of some playbooks comes to a point. -/
def Reaches (setting : Setting) (playbooks : List Playbook) (seed : ScopeStack)
    (point : Point) : Prop :=
  ReflTransGen (Leads setting) ⟨.start seed, .playbooks playbooks⟩ point

theorem runPlaybooks_leads {setting : Setting} {depth : Nat} {playbooks : List Playbook}
    {session after : Session} {outcomes : List PlaybookOutcome}
    (ran : runPlaybooks setting depth playbooks session = some (outcomes, after)) :
    ReflTransGen (Leads setting) ⟨session, .playbooks playbooks⟩ ⟨after, .playbooks []⟩ := by
  induction playbooks generalizing session outcomes with
  | nil =>
      cases ran
      exact .refl
  | cons playbook rest inductionHypothesis =>
      obtain ⟨status, between, ended, continued⟩ := runPlaybooks_cons_eq_some_iff.1 ran
      have step : Leads setting ⟨session, .playbooks (playbook :: rest)⟩
          ⟨between, .playbooks (setting.policy.playbooksAfter status rest)⟩ :=
        .afterPlaybook ⟨depth, ended⟩
      rcases continued with ⟨rfl, stops, -, rfl⟩ | ⟨goesOn, later, restRan, -⟩
      · rw [stops] at step
        exact .single step
      · rw [FailurePolicy.playbooksAfter_of_goesOn goesOn] at step
        exact .head step (inductionHypothesis restRan)

/-! ## What can come up -/

end Execution

/-- A stage can be run: it is one of the playbooks' own, or acquires a credential that such
a stage asks for. -/
inductive Bundle.CanRun (bundle : Bundle) (playbooks : List Playbook) : Stage → Prop where
  | given {playbook : Playbook} {stage : Stage} (among : playbook ∈ playbooks)
      (member : stage ∈ playbook.stages) : CanRun bundle playbooks stage
  | acquired {outer stage : Stage} {resolved : ResolvedStage} {entry : String}
      {requirement : Requirement} (outerRuns : CanRun bundle playbooks outer)
      (found : bundle.resolve outer = .ok resolved) (asked : entry ∈ resolved.content.auth)
      (met : bundle.requirement entry = .ok requirement)
      (member : stage ∈ requirement.method.requests) : CanRun bundle playbooks stage

/-- An entry can be asked for, by a stage that can be run. -/
def Bundle.CanAsk (bundle : Bundle) (playbooks : List Playbook) (entry : String) : Prop :=
  ∃ stage resolved, bundle.CanRun playbooks stage ∧ bundle.resolve stage = .ok resolved ∧
    entry ∈ resolved.content.auth

namespace Execution

/-- All that a task holds can come up. -/
def Task.CanComeUp (bundle : Bundle) (given : List Playbook) : Task → Prop
  | .playbooks later =>
      ∀ playbook ∈ later, ∀ stage ∈ playbook.stages, bundle.CanRun given stage
  | .stages later => ∀ stage ∈ later, bundle.CanRun given stage
  | .stage here => bundle.CanRun given here
  | .entries later => ∀ entry ∈ later, bundle.CanAsk given entry
  | .entry here => bundle.CanAsk given here

theorem Leads.canComeUp {setting : Setting} {given : List Playbook} {point next : Point}
    (leads : Leads setting point next) (can : point.next.CanComeUp setting.bundle given) :
    next.next.CanComeUp setting.bundle given := by
  cases leads with
  | playbook => exact can _ List.mem_cons_self
  | afterPlaybook _ =>
      intro playbook member
      exact can playbook
        (List.mem_cons_of_mem _ (FailurePolicy.mem_of_mem_playbooksAfter member))
  | stage => exact can _ List.mem_cons_self
  | afterStage _ =>
      intro stage member
      exact can stage (List.mem_cons_of_mem _ (FailurePolicy.mem_of_mem_stagesAfter member))
  | entries found => exact fun entry asked => ⟨_, _, can, found, asked⟩
  | entry => exact can _ List.mem_cons_self
  | afterEntry _ => exact fun entry member => can entry (List.mem_cons_of_mem _ member)
  | method met _ =>
      obtain ⟨outer, resolved, outerRuns, found, asked⟩ := can
      exact fun stage member => .acquired outerRuns found asked met member

theorem Reaches.canComeUp {setting : Setting} {playbooks : List Playbook} {seed : ScopeStack}
    {point : Point} (reached : Reaches setting playbooks seed point) :
    point.next.CanComeUp setting.bundle playbooks := by
  induction reached with
  | refl => exact fun playbook among stage member => .given among member
  | tail _ leads inductionHypothesis => exact leads.canComeUp inductionHypothesis

/-! ## Where a failure to prepare a request comes from -/

/-- A stage that is run from a session prepares no request, and why. -/
inductive Unprepared (setting : Setting) (session : Session) (stage : Stage) :
    StageError → Prop where
  | unresolved {error : ResolveError} (failure : setting.bundle.resolve stage = .error error) :
      Unprepared setting session stage (.unresolved error)
  | credential {resolved : ResolvedStage} {depth : Nat} {authorization : Authorization}
      {authorized : Session} {error : AuthError}
      (found : setting.bundle.resolve stage = .ok resolved)
      (entries : authorize (acquireWithin setting depth) resolved.content.auth session =
        some (authorization, authorized))
      (failure : authorization.error = some error) :
      Unprepared setting session stage (.credential error)
  | preparation {resolved : ResolvedStage} {depth : Nat} {authorization : Authorization}
      {authorized : Session} {error : PrepareError}
      (found : setting.bundle.resolve stage = .ok resolved)
      (entries : authorize (acquireWithin setting depth) resolved.content.auth session =
        some (authorization, authorized))
      (failure : prepareRequest
        (substituteStage authorized.stack stage resolved.content).template
        authorization.credentials = .error error) :
      Unprepared setting session stage (.preparation error)

/-- What was told of a failure after a point was told before it, or by a stage that is
reached from it. -/
def Accounted (setting : Setting) (point : Point) (after : Session) : Prop :=
  ∀ error, .prepareFailed error ∈ after.events →
    .prepareFailed error ∈ point.session.events ∨
      ∃ session stage, ReflTransGen (Leads setting) point ⟨session, .stage stage⟩ ∧
        Unprepared setting session stage error

namespace Accounted

variable {setting : Setting} {point next : Point} {session after : Session}

theorem of_events_eq (same : after.events = point.session.events) :
    Accounted setting point after :=
  fun _ told => .inl (same ▸ told)

theorem tell {event : Event} (accounted : Accounted setting point session)
    (silent : ∀ error, event ≠ .prepareFailed error) :
    Accounted setting point (session.tell event) := by
  intro error told
  rcases List.mem_append.1 told with before | here
  · exact accounted error before
  · exact absurd (List.mem_singleton.1 here).symm (silent error)

theorem trans (path : ReflTransGen (Leads setting) point next)
    (first : Accounted setting point next.session)
    (second : Accounted setting next after) : Accounted setting point after := by
  intro error told
  rcases second error told with before | ⟨session, stage, reached, unprepared⟩
  · exact first error before
  · exact .inr ⟨session, stage, path.trans reached, unprepared⟩

end Accounted

theorem attempt_unprepared {made : Attempt} {error : StageError}
    (told : .prepareFailed error ∈ eventsOf made.acts) : made = .unprepared error := by
  cases made with
  | unprepared other =>
      simp only [Attempt.acts, eventsOf_tell, eventsOf_nil, List.mem_singleton,
        Event.prepareFailed.injEq] at told
      rw [told]
  | unanswered request operationId other => simp [Attempt.acts] at told
  | answered request operationId response assigned failures =>
      rw [Attempt.events_answered] at told
      cases assigned <;> simp [Attempt.failureEvent] at told

/-- A stage whose entries are acquired tells of a failure only if one was in the way. -/
theorem runAuthorized_accounted {setting : Setting} {stage : Stage} {resolved : ResolvedStage}
    {depth : Nat} {authorization : Authorization} {session authorized : Session}
    (found : setting.bundle.resolve stage = .ok resolved)
    (entries : authorize (acquireWithin setting depth) resolved.content.auth session =
      some (authorization, authorized)) {error : StageError}
    (told : .prepareFailed error ∈
      (runAuthorized setting stage resolved authorization authorized).2.events) :
    .prepareFailed error ∈ authorized.events ∨ Unprepared setting session stage error := by
  rw [runAuthorized_eq_perform, Session.events_perform, List.mem_append] at told
  refine told.imp_right fun here => ?_
  have unprepared : attempt setting authorized.sent stage resolved authorization
      (substituteStage authorized.stack stage resolved.content).template =
        .unprepared error := by
    refine attempt_unprepared ?_
    simpa using here
  unfold attempt at unprepared
  split at unprepared
  · next failed =>
    cases unprepared
    exact .credential found entries failed
  · split at unprepared
    · next failed =>
      cases unprepared
      exact .preparation found entries failed
    · split at unprepared <;> cases unprepared

section Parts

variable {setting : Setting} {depth : Nat}
  (acquired : ∀ entry session result worked,
    acquireWithin setting depth entry session = some (result, worked) →
      Accounted setting ⟨session, .entry entry⟩ worked)

include acquired

theorem entry_accounted {entry : String} {rest : List String} {session worked : Session}
    {result : Except AuthError Acquisition}
    (ran : acquireWithin setting depth entry (session.tell (.authStarted entry)) =
      some (result, worked)) :
    Accounted setting ⟨session, .entries (entry :: rest)⟩
      ((worked.adopt result).tell (.authFinished entry)) := by
  have inside : Accounted setting ⟨session, .entries (entry :: rest)⟩ worked :=
    .trans (.single .entry) (.tell (.of_events_eq rfl) (by simp))
      (acquired entry _ result worked ran)
  have adopted : Accounted setting ⟨session, .entries (entry :: rest)⟩
      (worked.adopt result) := by
    cases result <;> exact inside
  exact adopted.tell (by simp)

theorem authorize_accounted {entries : List String} {session after : Session}
    {authorization : Authorization}
    (ran : authorize (acquireWithin setting depth) entries session =
      some (authorization, after)) :
    Accounted setting ⟨session, .entries entries⟩ after := by
  induction entries generalizing session authorization with
  | nil =>
      cases ran
      exact .of_events_eq rfl
  | cons entry rest inductionHypothesis =>
      obtain ⟨result, worked, more, first, restRan, -⟩ := authorize_cons_eq_some_iff.1 ran
      exact .trans (.single (.afterEntry ⟨depth, result, worked, first, rfl⟩))
        (entry_accounted acquired first) (inductionHypothesis restRan)

theorem runStage_accounted {stage : Stage} {session after : Session} {status : StageStatus}
    (ran : runStage setting (acquireWithin setting depth) stage session =
      some (status, after)) :
    Accounted setting ⟨session, .stage stage⟩ after := by
  rcases runStage_eq_some_iff.1 ran with
    ⟨error, failure, -, rfl⟩ | ⟨resolved, authorization, authorized, found, entries, made⟩
  · intro other told
    simp only [Session.tell, List.mem_append, List.mem_singleton, reduceCtorEq, or_false,
      Event.prepareFailed.injEq] at told
    refine told.imp_right fun same => ?_
    subst same
    exact ⟨session, stage, .refl, .unresolved failure⟩
  · have before : Accounted setting ⟨session, .stage stage⟩ authorized :=
      .trans (.single (.entries found)) (.of_events_eq rfl)
        (authorize_accounted acquired entries)
    intro error told
    rw [show after = _ from (congrArg Prod.snd made).symm] at told
    rcases runAuthorized_accounted found entries told with earlier | unprepared
    · exact before error earlier
    · exact .inr ⟨session, stage, .refl, unprepared⟩

theorem runStages_accounted {stages : List Stage} {session after : Session}
    {status : StageStatus}
    (ran : runStages setting (acquireWithin setting depth) stages session =
      some (status, after)) :
    Accounted setting ⟨session, .stages stages⟩ after := by
  induction stages generalizing session status with
  | nil =>
      cases ran
      exact .of_events_eq rfl
  | cons stage rest inductionHypothesis =>
      obtain ⟨first, between, ended, continued⟩ := runStages_cons_eq_some_iff.1 ran
      have inside : Accounted setting ⟨session, .stages (stage :: rest)⟩ between :=
        .trans (.single .stage) (.of_events_eq rfl) (runStage_accounted acquired ended)
      have step : Leads setting ⟨session, .stages (stage :: rest)⟩
          ⟨between, .stages (setting.policy.stagesAfter first rest)⟩ :=
        .afterStage ⟨depth, ended⟩
      rcases continued with ⟨-, -, -, rfl⟩ | ⟨goesOn, later, laterRan, -⟩
      · exact inside
      · rw [FailurePolicy.stagesAfter_of_goesOn goesOn] at step
        exact .trans (.single step) inside (inductionHypothesis laterRan)

theorem runPlaybook_accounted {name : String} {stages : List Stage} {session after : Session}
    {status : StageStatus}
    (ran : runPlaybook setting (acquireWithin setting depth) name stages session =
      some (status, after)) :
    Accounted setting ⟨session.tell (.playbookStarted name), .stages stages⟩ after := by
  obtain ⟨between, stagesRan, rfl⟩ := runPlaybook_eq_some_iff.1 ran
  have inside := runStages_accounted acquired stagesRan
  cases status <;> exact inside.tell (by simp [closing])

theorem acquire_accounted {entry : String} {session worked : Session}
    {result : Except AuthError Acquisition}
    (ran : acquire setting (acquireWithin setting depth) entry session =
      some (result, worked)) :
    Accounted setting ⟨session, .entry entry⟩ worked := by
  rcases acquire_eq_some_iff.1 ran with
    ⟨error, failure, -, rfl⟩ | ⟨requirement, copy, credential, met, methodRan, -, -, rfl⟩
  · exact .of_events_eq rfl
  · rcases runMethod_eq_some_iff.1 methodRan with ⟨bare, rfl⟩ | ⟨staged, status, playbookRan⟩
    · exact .of_events_eq rfl
    · have inside := runPlaybook_accounted acquired playbookRan
      have through : Accounted setting ⟨session, .entry entry⟩ copy :=
        .trans (.single (.method met staged)) (.tell (.of_events_eq rfl) (by simp)) inside
      exact through

end Parts

theorem acquireWithin_accounted {setting : Setting} {depth : Nat} {entry : String}
    {session worked : Session} {result : Except AuthError Acquisition}
    (ran : acquireWithin setting depth entry session = some (result, worked)) :
    Accounted setting ⟨session, .entry entry⟩ worked := by
  induction depth generalizing entry session worked result with
  | zero => cases ran
  | succ depth inductionHypothesis =>
      exact acquire_accounted (fun _ _ _ _ => inductionHypothesis) ran

theorem Leads.accounted {setting : Setting} {point next : Point}
    (leads : Leads setting point next) : Accounted setting point next.session := by
  have acquired : ∀ depth entry session result worked,
      acquireWithin setting depth entry session = some (result, worked) →
        Accounted setting ⟨session, .entry entry⟩ worked :=
    fun _ _ _ _ _ => acquireWithin_accounted
  cases leads with
  | playbook => exact .tell (.of_events_eq rfl) (by simp)
  | afterPlaybook ended =>
      obtain ⟨depth, ran⟩ := ended
      exact .trans (.single .playbook) (.tell (.of_events_eq rfl) (by simp))
        (runPlaybook_accounted (acquired depth) ran)
  | stage => exact .of_events_eq rfl
  | afterStage ended =>
      obtain ⟨depth, ran⟩ := ended
      exact .trans (.single .stage) (.of_events_eq rfl)
        (runStage_accounted (acquired depth) ran)
  | entries _ => exact .of_events_eq rfl
  | entry => exact .tell (.of_events_eq rfl) (by simp)
  | afterEntry ended =>
      obtain ⟨depth, result, worked, ran, rfl⟩ := ended
      exact entry_accounted (acquired depth) ran
  | method _ _ => exact .tell (.of_events_eq rfl) (by simp)

theorem Reaches.accounted {setting : Setting} {playbooks : List Playbook} {seed : ScopeStack}
    {point : Point} (reached : Reaches setting playbooks seed point) :
    Accounted setting ⟨.start seed, .playbooks playbooks⟩ point.session := by
  induction reached with
  | refl => exact .of_events_eq rfl
  | tail before leads inductionHypothesis =>
      exact .trans before inductionHypothesis leads.accounted

/-- Every failure to prepare a request that was told of up to a point of a run is one of a
stage that the run came to. -/
theorem Reaches.unprepared {setting : Setting} {playbooks : List Playbook} {seed : ScopeStack}
    {point : Point} (reached : Reaches setting playbooks seed point) {error : StageError}
    (told : .prepareFailed error ∈ point.session.events) :
    ∃ session stage, Reaches setting playbooks seed ⟨session, .stage stage⟩ ∧
      Unprepared setting session stage error := by
  rcases reached.accounted error told with atStart | origin
  · cases atStart
  · exact origin

end Execution

open Execution

/-- The session that a run ends with is reached. -/
theorem Run.reaches_end {setting : Setting} {depth : Nat} {playbooks : List Playbook}
    {seed : ScopeStack} {run : Run}
    (ended : Run.within depth setting playbooks seed = some run) :
    Reaches setting playbooks seed
      ⟨⟨run.outcome.stack, run.sent, run.events⟩, .playbooks []⟩ := by
  simp only [Run.within, Option.bind_eq_bind, Option.bind_eq_some_iff, Option.some.injEq]
    at ended
  obtain ⟨⟨outcomes, after⟩, ran, rfl⟩ := ended
  exact runPlaybooks_leads ran

namespace Execution

/-- A run tells of an event: on its way, if it ends or not, or when it has ended. -/
def TellsOf (setting : Setting) (playbooks : List Playbook) (seed : ScopeStack)
    (event : Event) : Prop :=
  (∃ point, Reaches setting playbooks seed point ∧ event ∈ point.session.events) ∨
    ∃ depth run, Run.within depth setting playbooks seed = some run ∧ event ∈ run.events

/-- Every failure to prepare a request that a run tells of is one of a stage that the run
came to. -/
theorem TellsOf.unprepared {setting : Setting} {playbooks : List Playbook} {seed : ScopeStack}
    {error : StageError} (told : TellsOf setting playbooks seed (.prepareFailed error)) :
    ∃ session stage, Reaches setting playbooks seed ⟨session, .stage stage⟩ ∧
      Unprepared setting session stage error := by
  rcases told with ⟨point, reached, told⟩ | ⟨depth, run, ended, told⟩
  · exact reached.unprepared told
  · exact (Run.reaches_end ended).unprepared told

end Execution

end RequestFlow
