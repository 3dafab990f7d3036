import RequestFlow.Proofs.Acquisition.Termination
import RequestFlow.Proofs.Run.Tracing

/-!
Contract: how many acquisitions are open at once in the course of a run.

Owns: the count of open acquisitions over the events of a run; the proof that a run with a
result within a depth has no more of them open than the depth allows; and the bound for
bundles whose needs have no cycle.

An acquisition is open between the event that tells of its start and the one that tells of
its end. Events from a part of a run close all that they open, so that the count of a part
does not depend on what follows.
-/

namespace RequestFlow

open Relation Execution

/-! ## Open acquisitions -/

/-- How many acquisitions are open after an event, when some were open before. -/
def Event.openAfter (before : Nat) : Event → Nat
  | .authStarted _ => before + 1
  | .authFinished _ => before - 1
  | _ => before

/-- The largest number of acquisitions that are open at once, from some that are open
before the first event to those that are open after the last one. -/
def mostOpen (before : Nat) : List Event → Nat
  | [] => before
  | event :: rest => max before (mostOpen (event.openAfter before) rest)

namespace Execution

/-- An event that neither opens nor closes an acquisition. -/
def Neutral (event : Event) : Prop := ∀ before, event.openAfter before = before

/-- Events that close what they open, with so many acquisitions in one another at most. -/
inductive Nested : Nat → List Event → Prop where
  | done {depth : Nat} : Nested depth []
  | tell {depth : Nat} {event : Event} {rest : List Event} (neutral : Neutral event)
      (later : Nested depth rest) : Nested depth (event :: rest)
  | acquisition {depth : Nat} {entry : String} {inside rest : List Event}
      (inner : Nested depth inside) (later : Nested (depth + 1) rest) :
      Nested (depth + 1) (.authStarted entry :: (inside ++ .authFinished entry :: rest))

namespace Nested

variable {depth : Nat} {events later : List Event}

theorem append (first : Nested depth events) (second : Nested depth later) :
    Nested depth (events ++ later) := by
  induction first with
  | done => exact second
  | tell neutral _ inductionHypothesis => exact .tell neutral (inductionHypothesis second)
  | acquisition inner _ _ inductionHypothesis =>
      rw [List.cons_append, List.append_assoc, List.cons_append]
      exact .acquisition inner (inductionHypothesis second)

theorem of_neutral (neutral : ∀ event ∈ events, Neutral event) : Nested depth events := by
  induction events with
  | nil => exact .done
  | cons event rest inductionHypothesis =>
      obtain ⟨first, others⟩ := List.forall_mem_cons.1 neutral
      exact .tell first (inductionHypothesis others)

/-- Nested events raise the count by their depth at most, and leave it to what follows as
they found it. -/
theorem mostOpen_append_le (nested : Nested depth events) (before : Nat)
    (later : List Event) :
    mostOpen before (events ++ later) ≤ max (before + depth) (mostOpen before later) := by
  induction nested generalizing before later with
  | done => exact Nat.le_max_right _ _
  | @tell depth event rest neutral _ inductionHypothesis =>
      have rest := inductionHypothesis before later
      rw [List.cons_append, mostOpen, neutral]
      omega
  | @acquisition depth entry inside rest _ _ insideBound restBound =>
      -- Inside one more is open; after the end the count is what it was.
      have inner := insideBound (before + 1) (.authFinished entry :: (rest ++ later))
      have outer := restBound before later
      rw [List.cons_append, List.append_assoc, List.cons_append, mostOpen, Event.openAfter]
      rw [mostOpen, Event.openAfter, Nat.add_sub_cancel] at inner
      omega

theorem mostOpen_le (nested : Nested depth events) (before : Nat) :
    mostOpen before events ≤ before + depth := by
  have bound := nested.mostOpen_append_le before []
  rw [List.append_nil, mostOpen] at bound
  omega

end Nested

/-! ## What parts of a run tell -/

/-- What is told from a session to a later one is nested in a depth. -/
def TellsNested (depth : Nat) (session after : Session) : Prop :=
  ∃ told, after.events = session.events ++ told ∧ Nested depth told

namespace TellsNested

variable {depth : Nat} {session between after : Session}

theorem of_events_eq (same : after.events = session.events) :
    TellsNested depth session after :=
  ⟨[], by rw [same, List.append_nil], .done⟩

theorem trans (first : TellsNested depth session between)
    (second : TellsNested depth between after) : TellsNested depth session after := by
  obtain ⟨told, events, nested⟩ := first
  obtain ⟨more, later, moreNested⟩ := second
  exact ⟨told ++ more, by rw [later, events, List.append_assoc], nested.append moreNested⟩

theorem of_neutral {told : List Event} (events : after.events = session.events ++ told)
    (neutral : ∀ event ∈ told, Neutral event) : TellsNested depth session after :=
  ⟨told, events, .of_neutral neutral⟩

theorem tell {event : Event} (neutral : Neutral event) :
    TellsNested depth session (session.tell event) :=
  of_neutral rfl (List.forall_mem_singleton.2 neutral)

end TellsNested

theorem neutral_attempt (made : Attempt) : ∀ event ∈ eventsOf made.acts, Neutral event := by
  cases made with
  | unprepared error => simp [Attempt.acts, Neutral, Event.openAfter]
  | unanswered request operationId error => simp [Attempt.acts, Neutral, Event.openAfter]
  | answered request operationId response assigned failures =>
      rw [Attempt.events_answered]
      cases assigned <;> simp [Neutral, Event.openAfter, Attempt.failureEvent]

theorem runAuthorized_tellsNested (setting : Setting) (stage : Stage)
    (resolved : ResolvedStage) (authorization : Authorization) (session : Session)
    (depth : Nat) :
    TellsNested depth session
      (runAuthorized setting stage resolved authorization session).2 := by
  rw [runAuthorized_eq_perform]
  refine .of_neutral (Session.events_perform _ _) ?_
  rw [eventsOf_tell, eventsOf_substitute]
  exact List.forall_mem_cons.2 ⟨fun _ => rfl,
    List.forall_mem_cons.2 ⟨fun _ => rfl, neutral_attempt _⟩⟩

/-- What an acquirer does for an entry is nested in a depth, start and end included. -/
def Acquirer.TellsNested (acquirer : Acquirer) (depth : Nat) : Prop :=
  ∀ entry session result worked,
    acquirer entry (session.tell (.authStarted entry)) = some (result, worked) →
      Execution.TellsNested depth session
        ((worked.adopt result).tell (.authFinished entry))

section Parts

variable {setting : Setting} {acquirer : Acquirer} {depth : Nat} {session after : Session}
  {status : StageStatus} (acquired : acquirer.TellsNested depth)

include acquired

theorem authorize_tellsNested {entries : List String} {authorization : Authorization}
    (ran : authorize acquirer entries session = some (authorization, after)) :
    TellsNested depth session after := by
  induction entries generalizing session authorization with
  | nil =>
      cases ran
      exact .of_events_eq rfl
  | cons entry rest inductionHypothesis =>
      obtain ⟨result, worked, more, first, restRan, -⟩ := authorize_cons_eq_some_iff.1 ran
      exact (acquired entry session result worked first).trans (inductionHypothesis restRan)

theorem runStage_tellsNested {stage : Stage}
    (ran : runStage setting acquirer stage session = some (status, after)) :
    TellsNested depth session after := by
  rcases runStage_eq_some_iff.1 ran with
    ⟨error, -, -, rfl⟩ | ⟨resolved, authorization, authorized, -, entries, made⟩
  · exact (TellsNested.tell fun _ => rfl).trans (.tell fun _ => rfl)
  · have requested := runAuthorized_tellsNested setting stage resolved authorization
      authorized depth
    rw [made] at requested
    exact (authorize_tellsNested acquired entries).trans requested

theorem runStages_tellsNested {stages : List Stage}
    (ran : runStages setting acquirer stages session = some (status, after)) :
    TellsNested depth session after := by
  induction stages generalizing session status with
  | nil =>
      cases ran
      exact .of_events_eq rfl
  | cons stage rest inductionHypothesis =>
      obtain ⟨first, between, firstRan, continued⟩ := runStages_cons_eq_some_iff.1 ran
      have stageTold := runStage_tellsNested acquired firstRan
      rcases continued with ⟨-, -, -, rfl⟩ | ⟨-, later, laterRan, -⟩
      · exact stageTold
      · exact stageTold.trans (inductionHypothesis laterRan)

theorem runPlaybook_tellsNested {name : String} {stages : List Stage}
    (ran : runPlaybook setting acquirer name stages session = some (status, after)) :
    TellsNested depth session after := by
  obtain ⟨between, stagesRan, rfl⟩ := runPlaybook_eq_some_iff.1 ran
  have opened : TellsNested depth session (session.tell (.playbookStarted name)) :=
    .tell fun _ => rfl
  have closed : TellsNested depth between (between.tell (closing name status)) :=
    .tell (by cases status <;> exact fun _ => rfl)
  exact (opened.trans (runStages_tellsNested acquired stagesRan)).trans closed

/-- One acquisition around others takes one level more. -/
theorem acquire_tellsNested : (acquire setting acquirer).TellsNested (depth + 1) := by
  intro entry session result worked ran
  have inside : TellsNested depth (session.tell (.authStarted entry)) worked := by
    rcases acquire_eq_some_iff.1 ran with
      ⟨error, -, -, rfl⟩ | ⟨requirement, copy, credential, -, methodRan, -, -, rfl⟩
    · exact .of_events_eq rfl
    · rcases runMethod_eq_some_iff.1 methodRan with ⟨-, rfl⟩ | ⟨-, status, playbookRan⟩
      · exact .of_events_eq rfl
      · have worked := runPlaybook_tellsNested acquired playbookRan
        exact worked
  obtain ⟨told, events, nested⟩ := inside
  have adopted : (worked.adopt result).events = worked.events := by cases result <;> rfl
  refine ⟨.authStarted entry :: (told ++ [.authFinished entry]), ?_,
    .acquisition nested .done⟩
  simp only [Session.tell, adopted, events, List.append_assoc, List.cons_append,
    List.nil_append]

end Parts

theorem acquireWithin_tellsNested (setting : Setting) (depth : Nat) :
    (acquireWithin setting depth).TellsNested depth := by
  induction depth with
  | zero =>
      intro entry session result worked ran
      cases ran
  | succ depth inductionHypothesis => exact acquire_tellsNested inductionHypothesis

theorem runPlaybooks_tellsNested {setting : Setting} {depth : Nat} {playbooks : List Playbook}
    {session after : Session} {outcomes : List PlaybookOutcome}
    (ran : runPlaybooks setting depth playbooks session = some (outcomes, after)) :
    TellsNested depth session after := by
  induction playbooks generalizing session outcomes with
  | nil =>
      cases ran
      exact .of_events_eq rfl
  | cons playbook rest inductionHypothesis =>
      obtain ⟨status, between, firstRan, continued⟩ := runPlaybooks_cons_eq_some_iff.1 ran
      have first := runPlaybook_tellsNested (acquireWithin_tellsNested setting depth) firstRan
      rcases continued with ⟨-, -, -, rfl⟩ | ⟨-, later, restRan, -⟩
      · exact first
      · exact first.trans (inductionHypothesis restRan)

end Execution

/-! ## Runs -/

/-- A run that ends within a depth has no more acquisitions open at once. -/
theorem Run.mostOpen_le {setting : Setting} {depth : Nat} {playbooks : List Playbook}
    {seed : ScopeStack} {run : Run}
    (ended : Run.within depth setting playbooks seed = some run) :
    mostOpen 0 run.events ≤ depth := by
  simp only [Run.within, Option.bind_eq_bind, Option.bind_eq_some_iff, Option.some.injEq]
    at ended
  obtain ⟨⟨outcomes, after⟩, ran, rfl⟩ := ended
  obtain ⟨told, events, nested⟩ := runPlaybooks_tellsNested ran
  have bound := nested.mostOpen_le 0
  rw [Nat.zero_add] at bound
  rwa [show after.events = told from events]

/-- Every run ends over a bundle, valid or not, whose needs have no cycle, and it never has
more acquisitions open at once than the bundle has names of credentials and one. -/
theorem acyclic_needs_bound_acquisitions {bundle : Bundle}
    (acyclic : ∀ name, ¬ TransGen bundle.Needs name name) (transport : Transport)
    (policy : FailurePolicy) (playbooks : List Playbook) (seed : ScopeStack) :
    ∃ run, (∀ depth, bundle.credentialNames.dedup.length < depth →
        Run.within depth ⟨bundle, transport, policy⟩ playbooks seed = some run) ∧
      mostOpen 0 run.events ≤ bundle.credentialNames.dedup.length + 1 := by
  obtain ⟨run, ended⟩ := everyRunEnds_of_acyclic acyclic transport policy playbooks seed
  exact ⟨run, ended, Run.mostOpen_le (ended _ (Nat.lt_succ_self _))⟩

/-! ## A login with a stray entry

Signing in asks for a credential that nobody declared. -/

/-- The bundle whose login signs in with an unknown credential. It is not valid. -/
def strayLogin : Bundle :=
  { Bundle.empty with
    credentialGroups := [Dict.ofList [("login", bearerOf
      [.inline ⟨none, ⟨"GET", "http://host/", .none, none⟩, ["stray"], none, ∅⟩ ∅])]] }

private theorem needs_strayLogin {name needed : String} (need : strayLogin.Needs name needed) :
    name = "login" ∧ needed = "stray" := by
  obtain ⟨stage, ⟨credential, found, method, methodMember, stageMember⟩,
    resolved, resolves, entry, asked, rfl⟩ := need
  have declared := Bundle.mem_entries_of_credential? found
  obtain ⟨rfl, rfl⟩ := Prod.mk.inj (List.mem_singleton.1 declared)
  obtain rfl := List.mem_singleton.1 methodMember
  obtain rfl := List.mem_singleton.1 stageMember
  cases resolves
  exact ⟨rfl, by rw [List.mem_singleton.1 asked]; rfl⟩

theorem acyclic_strayLogin (name : String) : ¬ TransGen strayLogin.Needs name name := by
  intro cycle
  obtain ⟨needed, first, -⟩ := TransGen.head'_iff.1 cycle
  obtain ⟨before, -, last⟩ := TransGen.tail'_iff.1 cycle
  have stray := (needs_strayLogin last).2
  rw [(needs_strayLogin first).1] at stray
  exact absurd stray (by decide)

/-- A request that asks for this login, and for the stray one itself. -/
def strayAsked : List Playbook :=
  [⟨"Request", [.inline
    ⟨none, ⟨"GET", "http://host/", .none, none⟩, ["login", "stray"], none, ∅⟩ ∅]⟩]

/-- The run of the request reaches the bound: the stray entry comes up while the login, the
only declared name, is acquired. -/
theorem strayLogin_bounds_acquisitions :
    strayLogin.validate ≠ .ok () ∧ (∀ name, ¬ TransGen strayLogin.Needs name name) ∧
      ∃ run, Run.within 2 ⟨strayLogin, .constant (.ofStatus 200), .continueStages⟩ strayAsked
          .empty = some run ∧
        mostOpen 0 run.events ≤ 2 ∧ 2 ≤ mostOpen 0 run.events := by
  obtain ⟨run, ended, bound⟩ := acyclic_needs_bound_acquisitions acyclic_strayLogin
    (.constant (.ofStatus 200)) .continueStages strayAsked .empty
  have within := ended 2 (by decide)
  have counted : (Run.within 2 ⟨strayLogin, .constant (.ofStatus 200), .continueStages⟩
      strayAsked .empty).map (fun run => mostOpen 0 run.events) = some 2 := by decide +kernel
  rw [within, Option.map_some, Option.some.injEq] at counted
  exact ⟨by decide, acyclic_strayLogin, run, within, bound, Nat.le_of_eq counted.symm⟩

end RequestFlow
