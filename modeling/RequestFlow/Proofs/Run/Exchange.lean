import RequestFlow.Proofs.Acquisition.Termination
import RequestFlow.Proofs.Run.Nesting
import RequestFlow.Proofs.Run.Tracing

/-!
Contract: the exchanges of a run with its transport, and the events that tell of them.

Owns: the proof that a request is told of as it is sent and its reply right after it, at
every depth; that the events tell of every exchange once and in order; and what a stage
itself sends.

A transport answers in view of the requests sent before, so what is told depends on all
that was sent up to there, by whatever stage. The invariant therefore carries the list of
these requests through the acts of a run.
-/

namespace RequestFlow

/-! ## What events tell of exchanges -/

namespace Event

/-- The request that an event tells of as prepared. -/
def prepared? : Event → Option HttpRequest
  | .requestPrepared request _ => some request
  | _ => none

/-- The reply that an event tells of. -/
def reply? : Event → Option Reply
  | .responseReceived response => some (.response response)
  | .transportFailed error => some (.failure error)
  | _ => none

@[simp] theorem prepared?_requestPrepared (request : HttpRequest)
    (operationId : Option String) :
    (requestPrepared request operationId).prepared? = some request := rfl

@[simp] theorem reply?_requestPrepared (request : HttpRequest) (operationId : Option String) :
    (requestPrepared request operationId).reply? = none := rfl

/-- An event that tells of no exchange. -/
def Silent (event : Event) : Prop := event.prepared? = none ∧ event.reply? = none

end Event

/-- How a reply is told of. -/
def Reply.event : Reply → Event
  | .response received => .responseReceived received
  | .failure error => .transportFailed error

@[simp] theorem Reply.reply?_event (reply : Reply) : reply.event.reply? = some reply := by
  cases reply <;> rfl

@[simp] theorem Reply.prepared?_event (reply : Reply) : reply.event.prepared? = none := by
  cases reply <;> rfl

/-- The replies to requests that are sent one after another, after some others. -/
def Transport.replies (transport : Transport) (before : List HttpRequest) :
    List HttpRequest → List Reply
  | [] => []
  | request :: rest => transport before request :: transport.replies (before ++ [request]) rest

/-- A reply is given in view of the requests before its own. -/
theorem getElem?_replies (transport : Transport) (before first later : List HttpRequest)
    (request : HttpRequest) :
    (transport.replies before (first ++ request :: later))[first.length]? =
      some (transport (before ++ first) request) := by
  induction first generalizing before with
  | nil =>
      rw [List.append_nil]
      rfl
  | cons earlier rest inductionHypothesis =>
      rw [List.cons_append, Transport.replies, List.length_cons, List.getElem?_cons_succ,
        inductionHypothesis, List.append_assoc]
      rfl

/-- Events that follow some requests tell of exchanges: right after a request its reply is
told of, and no reply is told of elsewhere. -/
inductive TellExchanges (transport : Transport) : List HttpRequest → List Event → Prop where
  | done {before : List HttpRequest} : TellExchanges transport before []
  | silent {before : List HttpRequest} {event : Event} {events : List Event}
      (silent : event.Silent) (later : TellExchanges transport before events) :
      TellExchanges transport before (event :: events)
  | exchange {before : List HttpRequest} {request : HttpRequest} {operationId : Option String}
      {events : List Event} (later : TellExchanges transport (before ++ [request]) events) :
      TellExchanges transport before
        (.requestPrepared request operationId :: (transport before request).event :: events)

namespace TellExchanges

variable {transport : Transport} {before : List HttpRequest} {events : List Event}

/-- Every reply is told of, once and in order. -/
theorem replies_eq (told : TellExchanges transport before events) :
    events.filterMap Event.reply? =
      transport.replies before (events.filterMap Event.prepared?) := by
  induction told with
  | done => rfl
  | silent silent _ inductionHypothesis =>
      rw [List.filterMap_cons_none silent.1, List.filterMap_cons_none silent.2,
        inductionHypothesis]
  | exchange _ inductionHypothesis =>
      simp [List.filterMap_cons, Transport.replies, inductionHypothesis]

/-- Right after a request the reply is told of that the transport gives it in view of the
requests told of before. -/
theorem followed (told : TellExchanges transport before events) {first after : List Event}
    {request : HttpRequest} {operationId : Option String}
    (split : events = first ++ .requestPrepared request operationId :: after) :
    ∃ later, after =
      (transport (before ++ first.filterMap Event.prepared?) request).event :: later := by
  induction told generalizing first with
  | done => simp at split
  | silent silent _ inductionHypothesis =>
      cases first with
      | nil =>
          obtain ⟨rfl, -⟩ := List.cons.inj split
          cases silent.1
      | cons event first =>
          obtain ⟨rfl, rest⟩ := List.cons.inj split
          rw [List.filterMap_cons_none silent.1]
          exact inductionHypothesis rest
  | @exchange before sent _ events _ inductionHypothesis =>
      rcases first with - | ⟨event, - | ⟨reply, first⟩⟩
      · obtain ⟨same, rfl⟩ := List.cons.inj split
        cases same
        exact ⟨events, by rw [List.filterMap_nil, List.append_nil]⟩
      · -- The event after a request is a reply, and so no further request.
        obtain ⟨same, -⟩ := List.cons.inj (List.cons.inj split).2
        have unprepared := (transport before sent).prepared?_event
        rw [same] at unprepared
        cases unprepared
      · simp only [List.cons_append, List.cons.injEq] at split
        obtain ⟨rfl, rfl, rest⟩ := split
        obtain ⟨later, rfl⟩ := inductionHypothesis rest
        exact ⟨later, by simp⟩

end TellExchanges

namespace Execution

/-! ## The invariant -/

/-- An act that neither sends nor tells of an exchange. -/
def Act.Silent (act : Act) : Prop :=
  act.request? = none ∧ ∀ event ∈ act.event?, event.Silent

/-- In acts that follow some requests, a request is told of and sent at once, and then its
reply is told of. -/
inductive Exchanged (transport : Transport) : List HttpRequest → List Act → Prop where
  | done {before : List HttpRequest} : Exchanged transport before []
  | silent {before : List HttpRequest} {act : Act} {acts : List Act} (silent : act.Silent)
      (later : Exchanged transport before acts) : Exchanged transport before (act :: acts)
  | exchange {before : List HttpRequest} {request : HttpRequest} {operationId : Option String}
      {acts : List Act} (later : Exchanged transport (before ++ [request]) acts) :
      Exchanged transport before
        (.tell (.requestPrepared request operationId) :: .send request ::
          .tell (transport before request).event :: acts)

namespace Exchanged

variable {transport : Transport} {before : List HttpRequest} {acts : List Act}

theorem append {later : List Act} (first : Exchanged transport before acts)
    (second : Exchanged transport (before ++ acts.filterMap Act.request?) later) :
    Exchanged transport before (acts ++ later) := by
  induction first with
  | done => simpa using second
  | silent silent _ inductionHypothesis =>
      rw [List.filterMap_cons_none silent.1] at second
      exact .silent silent (inductionHypothesis second)
  | exchange _ inductionHypothesis =>
      refine .exchange (inductionHypothesis ?_)
      rw [List.append_assoc]
      exact second

theorem tellExchanges (exchanged : Exchanged transport before acts) :
    TellExchanges transport before (eventsOf acts) := by
  induction exchanged with
  | done => exact .done
  | @silent before act acts silent _ inductionHypothesis =>
      cases told : act.event? with
      | none =>
          rw [eventsOf, List.filterMap_cons_none told]
          exact inductionHypothesis
      | some event =>
          rw [eventsOf, List.filterMap_cons_some told]
          exact .silent (silent.2 event told) inductionHypothesis
  | exchange _ inductionHypothesis =>
      rw [eventsOf_tell, eventsOf_send, eventsOf_tell]
      exact .exchange inductionHypothesis

/-- What is sent is what is told of as prepared. -/
theorem requests_eq (exchanged : Exchanged transport before acts) :
    acts.filterMap Act.request? = (eventsOf acts).filterMap Event.prepared? := by
  induction exchanged with
  | done => rfl
  | @silent before act acts silent _ inductionHypothesis =>
      rw [List.filterMap_cons_none silent.1, inductionHypothesis]
      cases told : act.event? with
      | none => rw [eventsOf, eventsOf, List.filterMap_cons_none told]
      | some event =>
          have unprepared := (silent.2 event told).1
          rw [eventsOf, eventsOf, List.filterMap_cons_some told,
            List.filterMap_cons_none unprepared]
  | exchange _ inductionHypothesis =>
      simp [List.filterMap_cons, Act.request?, inductionHypothesis]

end Exchanged

/-! ## The exchanges of the parts of a run -/

section Parts

variable {transport : Transport} {before : List HttpRequest} {acts : List Act}

theorem Exchanged.tell {event : Event} (silent : event.Silent)
    (later : Exchanged transport before acts) :
    Exchanged transport before (.tell event :: acts) := by
  refine .silent ⟨rfl, fun other told => ?_⟩ later
  cases told
  exact silent

theorem Exchanged.substitute {stage : Stage} {request : StageRequest}
    (later : Exchanged transport before acts) :
    Exchanged transport before (.substitute stage request :: acts) := by
  refine .silent ⟨rfl, fun other told => ?_⟩ later
  cases told
  exact ⟨rfl, rfl⟩

theorem Exchanged.push {scope : Scope} (later : Exchanged transport before acts) :
    Exchanged transport before (.push scope :: acts) := by
  refine .silent ⟨rfl, fun other told => ?_⟩ later
  cases told

/-- What rules set is told of without an exchange. -/
theorem exchanged_assigned (assigned : Option Scope) (failures : List AssignmentFailure) :
    Exchanged transport before (Attempt.assignedActs assigned ++
      failures.map fun failure => .tell (Attempt.failureEvent failure)) := by
  have failed : Exchanged transport before
      (failures.map fun failure => .tell (Attempt.failureEvent failure)) := by
    induction failures with
    | nil => exact .done
    | cons failure rest inductionHypothesis => exact .tell ⟨rfl, rfl⟩ inductionHypothesis
  cases assigned with
  | none => exact failed
  | some scope => exact .push (.tell ⟨rfl, rfl⟩ failed)

end Parts

theorem exchanged_attempt (setting : Setting) (sent : List HttpRequest) (stage : Stage)
    (resolved : ResolvedStage) (authorization : Authorization) (template : RequestTemplate) :
    Exchanged setting.transport sent
      (attempt setting sent stage resolved authorization template).acts := by
  unfold attempt
  cases authorization.error with
  | some error => exact .tell ⟨rfl, rfl⟩ .done
  | none =>
      cases prepareRequest template authorization.credentials with
      | error error => exact .tell ⟨rfl, rfl⟩ .done
      | ok request =>
          have exchanged : ∀ acts, Exchanged setting.transport (sent ++ [request]) acts →
              Exchanged setting.transport sent
                (.tell (.requestPrepared request resolved.operationId) :: .send request ::
                  .tell (setting.transport sent request).event :: acts) :=
            fun _ later => .exchange later
          cases reply : setting.transport sent request with
          | failure error =>
              rw [reply] at exchanged
              simp only [reply]
              exact exchanged [] .done
          | response response =>
              rw [reply] at exchanged
              simp only [reply]
              exact exchanged _ (exchanged_assigned _ _)

mutual

theorem PlaybookRuns.exchanged {setting : Setting} {session : Session} {name : String}
    {stages : List Stage} {trace : PlaybookTrace} :
    PlaybookRuns setting session name stages trace →
      Exchanged setting.transport session.sent trace.acts
  | .mk runs => by
      rw [PlaybookTrace.acts]
      refine .tell ⟨rfl, rfl⟩ (runs.exchanged.append (.tell ?_ .done))
      cases statusOfStages _ <;> exact ⟨rfl, rfl⟩

theorem StagesRun.exchanged {setting : Setting} {session : Session} {stages : List Stage}
    {traces : List StageTrace} :
    StagesRun setting session stages traces →
      Exchanged setting.transport session.sent (stagesActs traces)
  | .done => .done
  | .stopped first _ _ => by
      rw [stagesActs, stagesActs, List.append_nil]
      exact first.exchanged
  | .next first _ later => by
      have rest := later.exchanged
      rw [Session.sent_perform] at rest
      rw [stagesActs]
      exact first.exchanged.append rest

theorem StageRuns.exchanged {setting : Setting} {session : Session} {stage : Stage}
    {trace : StageTrace} :
    StageRuns setting session stage trace →
      Exchanged setting.transport session.sent trace.acts
  | .unresolved _ => .tell ⟨rfl, rfl⟩ (.tell ⟨rfl, rfl⟩ .done)
  | .resolved _ entries after _ => by
      rw [StageTrace.acts]
      refine entries.exchanged.append (.tell ⟨rfl, rfl⟩ (.substitute ?_))
      rw [← Session.sent_perform, ← after]
      exact exchanged_attempt ..

theorem EntriesRun.exchanged {setting : Setting} {session : Session} {entries : List String}
    {traces : List AuthTrace} {authorization : Authorization} :
    EntriesRun setting session entries traces authorization →
      Exchanged setting.transport session.sent (authActs traces)
  | .done => .done
  | .next first later => by
      have rest := later.exchanged
      rw [Session.sent_perform] at rest
      rw [authActs]
      exact first.exchanged.append rest

theorem EntryRuns.exchanged {setting : Setting} {session : Session} {entry : String}
    {trace : AuthTrace} {result : Except AuthError AcquiredCredential} :
    EntryRuns setting session entry trace result →
      Exchanged setting.transport session.sent trace.acts
  | .unmet _ => .tell ⟨rfl, rfl⟩ (.tell ⟨rfl, rfl⟩ .done)
  | .direct _ _ _ => .tell ⟨rfl, rfl⟩ (.push (.tell ⟨rfl, rfl⟩ .done))
  | .staged _ _ runs _ => by
      rw [AuthTrace.acts]
      exact .tell ⟨rfl, rfl⟩ (runs.exchanged.append (.push (.tell ⟨rfl, rfl⟩ .done)))

end

theorem PlaybooksRun.exchanged {setting : Setting} {session : Session}
    {playbooks : List Playbook} {traces : List PlaybookTrace} {outcomes : List PlaybookOutcome}
    (runs : PlaybooksRun setting session playbooks traces outcomes) :
    Exchanged setting.transport session.sent (traces.flatMap PlaybookTrace.acts) := by
  induction runs with
  | done => exact .done
  | stopped first _ _ =>
      rw [List.flatMap_singleton]
      exact first.exchanged
  | next first _ _ inductionHypothesis =>
      rw [Session.sent_perform] at inductionHypothesis
      rw [List.flatMap_cons]
      exact first.exchanged.append inductionHypothesis

/-! ## What a stage itself sends -/

/-- The acts of a stage after those that acquire its credentials. -/
def StageTrace.ownActs : StageTrace → List Act
  | .unresolved stage error =>
      [.tell (.requestStarted stage.target?), .tell (.prepareFailed (.unresolved error))]
  | .resolved stage _ request attempt =>
      .tell (.requestStarted stage.target?) :: .substitute stage request :: attempt.acts

def StageTrace.ownRequests (stage : StageTrace) : List HttpRequest :=
  stage.ownActs.filterMap Act.request?

theorem StageTrace.acts_eq (stage : StageTrace) :
    stage.acts = authActs stage.auth ++ stage.ownActs := by
  cases stage <;> rfl

/-- The request that an attempt sent. -/
def Attempt.sent? : Attempt → Option HttpRequest
  | .unprepared _ => none
  | .unanswered request _ _ | .answered request _ _ _ _ => some request

theorem Attempt.requests_eq (attempt : Attempt) :
    attempt.acts.filterMap Act.request? = attempt.sent?.toList := by
  cases attempt with
  | unprepared error => rfl
  | unanswered request operationId error => rfl
  | answered request operationId response assigned failures =>
      have silent : (failures.map fun failure =>
          Act.tell (failureEvent failure)).filterMap Act.request? = [] := by
        rw [List.filterMap_map, List.filterMap_eq_nil_iff]
        exact fun _ _ => rfl
      rw [acts, List.filterMap_append, List.filterMap_append, silent]
      cases assigned <;> rfl

theorem Attempt.sent?_eq_none {attempt : Attempt} {error : StageError}
    (failed : .prepareFailed error ∈ eventsOf attempt.acts) : attempt.sent? = none := by
  cases attempt with
  | unprepared error => rfl
  | unanswered request operationId error => simp [acts] at failed
  | answered request operationId response assigned failures =>
      rw [events_answered] at failed
      cases assigned <;> simp [failureEvent] at failed

/-- A stage itself sends one request at most, and none if it tells that it could not prepare
one. -/
def StageTrace.SendsOnce (stage : StageTrace) : Prop :=
  stage.ownRequests.length ≤ 1 ∧
    ((∃ error, .prepareFailed error ∈ eventsOf stage.ownActs) → stage.ownRequests = [])

theorem StageTrace.sendsOnce (stage : StageTrace) : stage.SendsOnce := by
  cases stage with
  | unresolved stage error => exact ⟨Nat.zero_le 1, fun _ => rfl⟩
  | resolved stage auth request attempt =>
      have sent : (StageTrace.resolved stage auth request attempt).ownRequests =
          attempt.sent?.toList := attempt.requests_eq
      rw [SendsOnce, sent]
      refine ⟨Option.length_toList_le, fun ⟨error, failed⟩ => ?_⟩
      have later : .prepareFailed error ∈ eventsOf attempt.acts := by
        simpa [ownActs] using failed
      rw [Attempt.sent?_eq_none later]
      rfl

end Execution

/-! ## The exchanges of runs -/

open Execution

/-- The events of a run that ends tell of its exchanges. The requests told of as prepared
are those sent, the replies told of are those the transport gave, and each reply is told of
right after its request. Of the stages, at every depth, none sends more than one request
itself, beside those that its acquisitions send, and none does that could not prepare one. -/
theorem Run.exchanges_told {setting : Setting} {depth : Nat} {playbooks : List Playbook}
    {seed : ScopeStack} {run : Run}
    (ended : Run.within depth setting playbooks seed = some run) :
    run.sent = run.events.filterMap Event.prepared? ∧
      run.events.filterMap Event.reply? = setting.transport.replies [] run.sent ∧
      (∀ before request operationId after,
        run.events = before ++ .requestPrepared request operationId :: after →
          ∃ reply later,
            (setting.transport.replies [] run.sent)[(before.filterMap Event.prepared?).length]? =
              some reply ∧
            after = reply.event :: later) ∧
      ∃ traces, PlaybooksRun setting (.start seed) playbooks traces run.outcome.playbooks ∧
        run.events = traces.flatMap PlaybookTrace.events ∧
        run.sent = traces.flatMap PlaybookTrace.requests ∧
        ∀ here ∈ runStagesFrom (.start seed) traces,
          here.2.acts = authActs here.2.auth ++ here.2.ownActs ∧ here.2.SendsOnce := by
  obtain ⟨traces, runs, performed, events⟩ := Run.traced ended
  have exchanged : Exchanged setting.transport [] (traces.flatMap PlaybookTrace.acts) :=
    runs.exchanged
  have told := exchanged.tellExchanges
  have sent := Session.sent_perform (.start seed) (traces.flatMap PlaybookTrace.acts)
  rw [performed] at sent
  have prepared : run.sent = run.events.filterMap Event.prepared? := by
    rw [events, ← eventsOf_flatMap, ← exchanged.requests_eq]
    exact sent
  rw [eventsOf_flatMap, ← events] at told
  refine ⟨prepared, ?_, ?_, traces, runs, events, ?_,
    fun here _ => ⟨here.2.acts_eq, here.2.sendsOnce⟩⟩
  · rw [prepared]
    exact told.replies_eq
  · intro before request operationId after split
    obtain ⟨later, followed⟩ := told.followed split
    refine ⟨_, later, ?_, followed⟩
    rw [prepared, split, List.filterMap_append, List.filterMap_cons_some
      (Event.prepared?_requestPrepared request operationId), getElem?_replies]
  · rw [List.filterMap_flatMap] at sent
    exact sent

/-- The run of a request that asks for a login, which sends a request of its own. -/
theorem loginAsked_exchanges_told :
    ∃ run, Run.within 4 loginSetting loginAsked .empty = some run ∧
      run.sent = run.events.filterMap Event.prepared? ∧
      run.events.filterMap Event.reply? = loginSetting.transport.replies [] run.sent := by
  obtain ⟨run, ended⟩ := exists_run_loginAsked
  obtain ⟨sent, replies, -⟩ := Run.exchanges_told ended
  exact ⟨run, ended, sent, replies⟩

end RequestFlow
