import RequestFlow.Proofs.Run.Inversion

/-!
Contract: the parts of a run at every depth.

Owns: the playbooks and stages of a run, however deep in acquisitions they lie, each with
the session it starts in; the proof that each of them is run by the same rules as the
outermost ones; and the proof that a part of a run has one trace only.
-/

namespace RequestFlow.Execution

/-- The stage that was run. -/
def StageTrace.stage : StageTrace → Stage
  | .unresolved stage _ => stage
  | .resolved stage _ _ _ => stage

/-! ## Acquisitions -/

/-- A playbook that acquires a credential: the entry it is run for, the session it starts in,
and its trace. -/
structure Acquiring where
  entry : String
  session : Session
  playbook : PlaybookTrace

mutual

/-- The playbooks that acquire credentials in the course of a playbook, at every depth, when
it is run from a session. -/
def PlaybookTrace.acquisitionsFrom (session : Session) : PlaybookTrace → List Acquiring
  | .mk name stages => stagesAcquisitionsFrom (session.tell (.playbookStarted name)) stages

def stagesAcquisitionsFrom (session : Session) : List StageTrace → List Acquiring
  | [] => []
  | stage :: rest =>
      stage.acquisitionsFrom session ++
        stagesAcquisitionsFrom (session.perform stage.acts) rest

def StageTrace.acquisitionsFrom (session : Session) : StageTrace → List Acquiring
  | .unresolved .. => []
  | .resolved _ auth _ _ => authAcquisitionsFrom session auth

def authAcquisitionsFrom (session : Session) : List AuthTrace → List Acquiring
  | [] => []
  | first :: rest =>
      first.acquisitionsFrom session ++ authAcquisitionsFrom (session.perform first.acts) rest

def AuthTrace.acquisitionsFrom (session : Session) : AuthTrace → List Acquiring
  | .unmet _ | .direct .. => []
  | .staged entry playbook _ =>
      ⟨entry, session.tell (.authStarted entry), playbook⟩ ::
        playbook.acquisitionsFrom (session.tell (.authStarted entry))

end

/-! ## Parts of runs -/

section Parts

variable (session : Session)

/-- Playbooks that are run one after another, each with the session it starts in. -/
def playbooksFrom (session : Session) : List PlaybookTrace → List (Session × PlaybookTrace)
  | [] => []
  | playbook :: rest =>
      (session, playbook) :: playbooksFrom (session.perform playbook.acts) rest

/-- Stages that are run one after another, each with the session it starts in. -/
def stagesFrom (session : Session) : List StageTrace → List (Session × StageTrace)
  | [] => []
  | stage :: rest => (session, stage) :: stagesFrom (session.perform stage.acts) rest

/-- The playbooks that acquire credentials in a run, at every depth. -/
def runAcquisitions (traces : List PlaybookTrace) : List Acquiring :=
  (playbooksFrom session traces).flatMap fun (session, playbook) =>
    playbook.acquisitionsFrom session

/-- All playbooks of a run, at every depth, each with the session it starts in. -/
def runPlaybooksFrom (traces : List PlaybookTrace) : List (Session × PlaybookTrace) :=
  playbooksFrom session traces ++
    (runAcquisitions session traces).map fun part => (part.session, part.playbook)

/-- All stages of a run, at every depth, each with the session it starts in. -/
def runStagesFrom (traces : List PlaybookTrace) : List (Session × StageTrace) :=
  (runPlaybooksFrom session traces).flatMap fun (session, playbook) =>
    stagesFrom (session.tell (.playbookStarted playbook.name)) playbook.stages

end Parts

/-! ## Every part is run by the rules -/

/-- A playbook is run for its entry: it has the name and the stages that the requirement of
the entry tells. -/
def Acquiring.Runs (setting : Setting) (part : Acquiring) : Prop :=
  ∃ requirement, setting.bundle.requirement part.entry = .ok requirement ∧
    PlaybookRuns setting part.session requirement.name requirement.method.requests
      part.playbook

mutual

theorem PlaybookRuns.acquisitions {setting : Setting} {session : Session} {name : String}
    {stages : List Stage} {trace : PlaybookTrace} :
    PlaybookRuns setting session name stages trace →
      ∀ part ∈ trace.acquisitionsFrom session, part.Runs setting
  | .mk runs => by
      rw [PlaybookTrace.acquisitionsFrom]
      exact runs.acquisitions

theorem StagesRun.acquisitions {setting : Setting} {session : Session} {stages : List Stage}
    {traces : List StageTrace} :
    StagesRun setting session stages traces →
      ∀ part ∈ stagesAcquisitionsFrom session traces, part.Runs setting
  | .done => by simp [stagesAcquisitionsFrom]
  | .stopped first _ _ => by
      rw [stagesAcquisitionsFrom, stagesAcquisitionsFrom, List.append_nil]
      exact first.acquisitions
  | .next first _ later => by
      rw [stagesAcquisitionsFrom]
      exact List.forall_mem_append.2 ⟨first.acquisitions, later.acquisitions⟩

theorem StageRuns.acquisitions {setting : Setting} {session : Session} {stage : Stage}
    {trace : StageTrace} :
    StageRuns setting session stage trace →
      ∀ part ∈ trace.acquisitionsFrom session, part.Runs setting
  | .unresolved _ => by simp [StageTrace.acquisitionsFrom]
  | .resolved _ entries _ _ => by
      rw [StageTrace.acquisitionsFrom]
      exact entries.acquisitions

theorem EntriesRun.acquisitions {setting : Setting} {session : Session}
    {entries : List String} {traces : List AuthTrace} {authorization : Authorization} :
    EntriesRun setting session entries traces authorization →
      ∀ part ∈ authAcquisitionsFrom session traces, part.Runs setting
  | .done => by simp [authAcquisitionsFrom]
  | .next first later => by
      rw [authAcquisitionsFrom]
      exact List.forall_mem_append.2 ⟨first.acquisitions, later.acquisitions⟩

theorem EntryRuns.acquisitions {setting : Setting} {session : Session} {entry : String}
    {trace : AuthTrace} {result : Except AuthError AcquiredCredential} :
    EntryRuns setting session entry trace result →
      ∀ part ∈ trace.acquisitionsFrom session, part.Runs setting
  | .unmet _ => by simp [AuthTrace.acquisitionsFrom]
  | .direct _ _ _ => by simp [AuthTrace.acquisitionsFrom]
  | .staged met _ runs _ => by
      rw [AuthTrace.acquisitionsFrom]
      exact List.forall_mem_cons.2 ⟨⟨_, met, runs⟩, runs.acquisitions⟩

end

theorem StageRuns.stage_eq {setting : Setting} {session : Session} {stage : Stage}
    {trace : StageTrace} (runs : StageRuns setting session stage trace) :
    trace.stage = stage := by
  cases runs <;> rfl

theorem StagesRun.each {setting : Setting} {session : Session} {stages : List Stage}
    {traces : List StageTrace} (runs : StagesRun setting session stages traces) :
    ∀ here ∈ stagesFrom session traces, StageRuns setting here.1 here.2.stage here.2 := by
  induction traces generalizing session stages with
  | nil => simp [stagesFrom]
  | cons trace rest inductionHypothesis =>
      cases runs with
      | stopped first _ _ =>
          obtain rfl := first.stage_eq
          exact List.forall_mem_singleton.2 first
      | next first _ later =>
          obtain rfl := first.stage_eq
          exact List.forall_mem_cons.2 ⟨first, inductionHypothesis later⟩

section PlaybooksRun

variable {setting : Setting} {session : Session} {playbooks : List Playbook}
  {traces : List PlaybookTrace} {outcomes : List PlaybookOutcome}
  (runs : PlaybooksRun setting session playbooks traces outcomes)

include runs

theorem PlaybooksRun.each : ∀ here ∈ playbooksFrom session traces,
    ∃ name stages, PlaybookRuns setting here.1 name stages here.2 := by
  induction runs with
  | done => simp [playbooksFrom]
  | stopped first _ _ => exact List.forall_mem_singleton.2 ⟨_, _, first⟩
  | next first _ _ inductionHypothesis =>
      exact List.forall_mem_cons.2 ⟨⟨_, _, first⟩, inductionHypothesis⟩

/-- The playbooks that acquire credentials are run for their entries. -/
theorem PlaybooksRun.acquisitions :
    ∀ part ∈ runAcquisitions session traces, part.Runs setting := by
  intro part member
  obtain ⟨here, among, inside⟩ := List.mem_flatMap.1 member
  obtain ⟨name, stages, run⟩ := runs.each here among
  exact run.acquisitions part inside

/-- The stages of a run, at every depth, are run by the rules where they start. -/
theorem PlaybooksRun.eachStage : ∀ here ∈ runStagesFrom session traces,
    StageRuns setting here.1 here.2.stage here.2 := by
  have playbookRuns : ∀ here ∈ runPlaybooksFrom session traces,
      ∃ name stages, PlaybookRuns setting here.1 name stages here.2 := by
    refine List.forall_mem_append.2 ⟨runs.each, fun here member => ?_⟩
    obtain ⟨part, among, rfl⟩ := List.mem_map.1 member
    obtain ⟨requirement, -, run⟩ := runs.acquisitions part among
    exact ⟨_, _, run⟩
  intro here member
  obtain ⟨part, among, inside⟩ := List.mem_flatMap.1 member
  obtain ⟨name, stages, run⟩ := playbookRuns part among
  obtain ⟨session, trace⟩ := part
  obtain ⟨stagesRun⟩ := run
  exact stagesRun.each here inside

end PlaybooksRun

/-! ## One trace only

Both runs of a part take the same rule, because the bundle and the status of a stage decide
which one applies. The recursion is on the first of them. -/

mutual

theorem PlaybookRuns.unique {setting : Setting} {session : Session} {name : String}
    {stages : List Stage} {first second : PlaybookTrace} :
    PlaybookRuns setting session name stages first →
      PlaybookRuns setting session name stages second → first = second
  | .mk runs, .mk others => by rw [runs.unique others]
termination_by structural runs => runs

theorem StagesRun.unique {setting : Setting} {session : Session} {stages : List Stage}
    {first second : List StageTrace} :
    StagesRun setting session stages first → StagesRun setting session stages second →
      first = second
  | .done, .done => rfl
  | .stopped one _ _, .stopped other _ _ => by rw [one.unique other]
  | .stopped one failed stops, .next other goesOn _ => by
      obtain rfl := one.unique other
      exact (not_goesOn failed stops goesOn).elim
  | .next one goesOn _, .stopped other failed stops => by
      obtain rfl := one.unique other
      exact (not_goesOn failed stops goesOn).elim
  | .next one _ later, .next other _ otherLater => by
      obtain rfl := one.unique other
      rw [later.unique otherLater]
termination_by structural runs => runs

theorem StageRuns.unique {setting : Setting} {session : Session} {stage : Stage}
    {first second : StageTrace} :
    StageRuns setting session stage first → StageRuns setting session stage second →
      first = second
  | .unresolved failure, .unresolved other => by
      rw [failure] at other
      cases other
      rfl
  | .unresolved failure, .resolved found _ _ _ => nomatch failure.symm.trans found
  | .resolved found _ _ _, .unresolved failure => nomatch failure.symm.trans found
  | .resolved found entries after substituted,
      .resolved otherFound otherEntries otherAfter otherSubstituted => by
      rw [found] at otherFound
      cases otherFound
      obtain ⟨rfl, rfl⟩ := entries.unique otherEntries
      rw [substituted, otherSubstituted, after, otherAfter]
termination_by structural runs => runs

theorem EntriesRun.unique {setting : Setting} {session : Session} {entries : List String}
    {first second : List AuthTrace} {authorization other : Authorization} :
    EntriesRun setting session entries first authorization →
      EntriesRun setting session entries second other →
        first = second ∧ authorization = other
  | .done, .done => ⟨rfl, rfl⟩
  | .next one later, .next another otherLater => by
      obtain ⟨rfl, rfl⟩ := one.unique another
      obtain ⟨rfl, rfl⟩ := later.unique otherLater
      exact ⟨rfl, rfl⟩
termination_by structural runs => runs

theorem EntryRuns.unique {setting : Setting} {session : Session} {entry : String}
    {first second : AuthTrace} {result other : Except AuthError AcquiredCredential} :
    EntryRuns setting session entry first result →
      EntryRuns setting session entry second other → first = second ∧ result = other
  | .unmet failure, .unmet otherFailure => by
      rw [failure] at otherFailure
      cases otherFailure
      exact ⟨rfl, rfl⟩
  | .unmet failure, .direct met _ _ => nomatch failure.symm.trans met
  | .unmet failure, .staged met _ _ _ => nomatch failure.symm.trans met
  | .direct met _ _, .unmet failure => nomatch failure.symm.trans met
  | .direct met _ filled, .direct otherMet _ otherFilled => by
      rw [met] at otherMet
      cases otherMet
      rw [filled, otherFilled]
      exact ⟨rfl, rfl⟩
  | .direct met bare _, .staged otherMet staged _ _ => by
      rw [met] at otherMet
      cases otherMet
      exact absurd bare staged
  | .staged met _ _ _, .unmet failure => nomatch failure.symm.trans met
  | .staged otherMet staged _ _, .direct met bare _ => by
      rw [met] at otherMet
      cases otherMet
      exact absurd bare staged
  | .staged met _ runs filled, .staged otherMet _ others otherFilled => by
      rw [met] at otherMet
      cases otherMet
      obtain rfl := runs.unique others
      rw [filled, otherFilled]
      exact ⟨rfl, rfl⟩
termination_by structural runs => runs

end

theorem PlaybooksRun.unique {setting : Setting} {session : Session} {playbooks : List Playbook}
    {first second : List PlaybookTrace} {outcomes others : List PlaybookOutcome}
    (runs : PlaybooksRun setting session playbooks first outcomes)
    (other : PlaybooksRun setting session playbooks second others) :
    first = second ∧ outcomes = others := by
  induction runs generalizing second others with
  | done =>
      cases other
      exact ⟨rfl, rfl⟩
  | stopped one failed stops =>
      cases other with
      | stopped another _ _ => exact ⟨by rw [one.unique another], rfl⟩
      | next another goesOn _ =>
          obtain rfl := one.unique another
          rw [failed, stops] at goesOn
          rcases goesOn with completed | continues
          · cases completed
          · exact absurd rfl continues
  | next one goesOn _ inductionHypothesis =>
      cases other with
      | stopped another failed stops =>
          obtain rfl := one.unique another
          rw [failed, stops] at goesOn
          rcases goesOn with completed | continues
          · cases completed
          · exact absurd rfl continues
      | next another _ otherLater =>
          obtain rfl := one.unique another
          obtain ⟨rfl, rfl⟩ := inductionHypothesis otherLater
          exact ⟨rfl, rfl⟩

end RequestFlow.Execution
