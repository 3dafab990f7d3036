import RequestFlow.Proofs.Run.Trace

/-!
Contract: the ways in which each part of a run comes to a result.

Owns: one equivalence for each function of the execution, which lists these ways with all
that was done in them, so that no other proof has to unfold the function.
-/

namespace RequestFlow.Execution

variable {setting : Setting} {acquirer : Acquirer} {session after : Session}

/-! ## Stages -/

/-- The first entry is acquired, what it hands over is pushed, and the others follow. -/
theorem authorize_cons_eq_some_iff {entry : String} {rest : List String}
    {authorization : Authorization} :
    authorize acquirer (entry :: rest) session = some (authorization, after) ↔
      ∃ result worked more,
        acquirer entry (session.tell (.authStarted entry)) = some (result, worked) ∧
        authorize acquirer rest ((worked.adopt result).tell (.authFinished entry)) =
          some (more, after) ∧
        authorization = more.cons (result.map Acquisition.credential) := by
  simp only [authorize, Option.bind_eq_bind, Option.bind_eq_some_iff, Option.some.injEq,
    Prod.mk.injEq]
  constructor
  · rintro ⟨⟨result, worked⟩, first, ⟨more, later⟩, others, rfl, rfl⟩
    exact ⟨result, worked, more, first, others, rfl⟩
  · rintro ⟨result, worked, more, first, others, rfl⟩
    exact ⟨(result, worked), first, (more, after), others, rfl, rfl⟩

/-- A stage has no content and fails, or its entries are gone through and its request is
made. -/
theorem runStage_eq_some_iff {stage : Stage} {status : StageStatus} :
    runStage setting acquirer stage session = some (status, after) ↔
      (∃ error, setting.bundle.resolve stage = .error error ∧ status = .failed ∧
        after = (session.tell (.requestStarted stage.target?)).tell
          (.prepareFailed (.unresolved error))) ∨
      ∃ resolved authorization authorized, setting.bundle.resolve stage = .ok resolved ∧
        authorize acquirer resolved.content.auth session = some (authorization, authorized) ∧
        runAuthorized setting stage resolved authorization authorized = (status, after) := by
  unfold runStage
  cases found : setting.bundle.resolve stage with
  | error error =>
      simp only [Option.some.injEq, Prod.mk.injEq]
      constructor
      · rintro ⟨rfl, rfl⟩
        exact .inl ⟨error, rfl, rfl, rfl⟩
      · rintro (⟨other, same, rfl, rfl⟩ | ⟨resolved, _, _, missing, -⟩)
        · cases same
          exact ⟨rfl, rfl⟩
        · cases missing
  | ok resolved =>
      simp only [Option.bind_eq_bind, Option.bind_eq_some_iff, Option.some.injEq]
      constructor
      · rintro ⟨⟨authorization, authorized⟩, entries, made⟩
        exact .inr ⟨resolved, authorization, authorized, rfl, entries, made⟩
      · rintro (⟨error, missing, -⟩ | ⟨other, authorization, authorized, same, entries, made⟩)
        · cases missing
        · cases same
          exact ⟨(authorization, authorized), entries, made⟩

theorem not_goesOn {policy : FailurePolicy} {status : StageStatus} (failed : status = .failed)
    (stops : policy ≠ .continueStages) :
    ¬ (status = .completed ∨ policy = .continueStages) := by
  rintro (completed | continues)
  · rw [failed] at completed
    cases completed
  · exact stops continues

/-- The first stage fails and nothing more is run, or the others follow. -/
theorem runStages_cons_eq_some_iff {stage : Stage} {rest : List Stage} {status : StageStatus} :
    runStages setting acquirer (stage :: rest) session = some (status, after) ↔
      ∃ first between, runStage setting acquirer stage session = some (first, between) ∧
        ((first = .failed ∧ setting.policy ≠ .continueStages ∧ status = .failed ∧
            after = between) ∨
          (first = .completed ∨ setting.policy = .continueStages) ∧
            ∃ later, runStages setting acquirer rest between = some (later, after) ∧
              status = first.both later) := by
  simp only [runStages, Option.bind_eq_bind, Option.bind_eq_some_iff, Prod.exists]
  refine exists_congr fun first => exists_congr fun between => and_congr_right fun _ => ?_
  by_cases stops : first = .failed ∧ setting.policy ≠ .continueStages
  · rw [if_pos (by simpa using stops)]
    constructor
    · intro same
      cases same
      exact .inl ⟨stops.1, stops.2, rfl, rfl⟩
    · rintro (⟨-, -, rfl, rfl⟩ | ⟨continued, -⟩)
      · rfl
      · exact absurd continued (not_goesOn stops.1 stops.2)
  · have goesOn : first = .completed ∨ setting.policy = .continueStages := by
      by_cases continues : setting.policy = .continueStages
      · exact .inr continues
      · cases first with
        | completed => exact .inl rfl
        | failed => exact absurd ⟨rfl, continues⟩ stops
    rw [if_neg (by simpa using stops)]
    simp only [goesOn, true_and, Option.bind_eq_some_iff, Prod.exists, Option.some.injEq,
      Prod.mk.injEq]
    constructor
    · rintro ⟨later, finished, restRan, rfl, rfl⟩
      exact .inr ⟨later, restRan, rfl⟩
    · rintro (⟨failed, notContinuing, -, -⟩ | ⟨later, restRan, rfl⟩)
      · exact absurd ⟨failed, notContinuing⟩ stops
      · exact ⟨later, after, restRan, rfl, rfl⟩

/-- The stages of a playbook stand between its start and its end. -/
theorem runPlaybook_eq_some_iff {name : String} {stages : List Stage} {status : StageStatus} :
    runPlaybook setting acquirer name stages session = some (status, after) ↔
      ∃ between, runStages setting acquirer stages (session.tell (.playbookStarted name)) =
          some (status, between) ∧
        after = between.tell (closing name status) := by
  simp only [runPlaybook, Option.bind_eq_bind, Option.bind_eq_some_iff, Prod.exists]
  constructor
  · rintro ⟨ended, between, ran, made⟩
    cases ended <;> cases made <;> exact ⟨between, ran, rfl⟩
  · rintro ⟨between, ran, rfl⟩
    refine ⟨status, between, ran, ?_⟩
    cases status <;> rfl

/-! ## Acquisitions -/

theorem runMethod_eq_some_iff {requirement : Requirement} :
    runMethod setting acquirer requirement session = some after ↔
      (requirement.method.requests = [] ∧ after = session) ∨
        requirement.method.requests ≠ [] ∧
          ∃ status, runPlaybook setting acquirer requirement.name requirement.method.requests
            session = some (status, after) := by
  unfold runMethod
  by_cases bare : requirement.method.requests = []
  · simp only [bare, List.isEmpty_nil, if_true, Option.some.injEq, true_and, ne_eq,
      not_true_eq_false, false_and, or_false, eq_comm]
  · rw [if_neg (by simpa using bare)]
    simp only [bare, false_and, false_or, ne_eq, not_false_eq_true, true_and,
      Option.map_eq_some_iff, Prod.exists, exists_eq_right]

/-- An entry is not met, or its method is worked through on a copy of the stack, and the
credential is made of the copy. -/
theorem acquire_eq_some_iff {entry : String} {result : Except AuthError Acquisition} :
    acquire setting acquirer entry session = some (result, after) ↔
      (∃ error, setting.bundle.requirement entry = .error error ∧ result = .error error ∧
        after = session) ∨
      ∃ requirement copy acquired, setting.bundle.requirement entry = .ok requirement ∧
        runMethod setting acquirer requirement session = some copy ∧
        acquired = fillCredential copy.stack requirement ∧
        result = .ok ⟨acquired,
          (copy.push (authScope acquired)).stack.since session.stack.size⟩ ∧
        after = session.resume (copy.push (authScope acquired)) := by
  unfold acquire
  cases met : setting.bundle.requirement entry with
  | error error =>
      simp only [Option.some.injEq, Prod.mk.injEq]
      constructor
      · rintro ⟨rfl, rfl⟩
        exact .inl ⟨error, rfl, rfl, rfl⟩
      · rintro (⟨other, same, rfl, rfl⟩ | ⟨requirement, _, _, missing, -⟩)
        · cases same
          exact ⟨rfl, rfl⟩
        · cases missing
  | ok requirement =>
      simp only [Option.bind_eq_bind, Option.bind_eq_some_iff, Option.some.injEq,
        Prod.mk.injEq]
      constructor
      · rintro ⟨copy, worked, rfl, rfl⟩
        exact .inr ⟨requirement, copy, _, rfl, worked, rfl, rfl, rfl⟩
      · rintro (⟨error, missing, -⟩ | ⟨other, copy, _, same, worked, rfl, rfl, rfl⟩)
        · cases missing
        · cases same
          exact ⟨copy, worked, rfl, rfl⟩

/-! ## Playbooks -/

/-- The first playbook aborts and the others are skipped, or they follow. -/
theorem runPlaybooks_cons_eq_some_iff {depth : Nat} {playbook : Playbook}
    {rest : List Playbook} {outcomes : List PlaybookOutcome} :
    runPlaybooks setting depth (playbook :: rest) session = some (outcomes, after) ↔
      ∃ status between, runPlaybook setting (acquireWithin setting depth) playbook.name
          playbook.stages session = some (status, between) ∧
        ((status = .failed ∧ setting.policy = .abortRun ∧
            outcomes = ⟨playbook.name, .aborted⟩ :: rest.map skipped ∧ after = between) ∨
          (status = .completed ∨ setting.policy ≠ .abortRun) ∧
            ∃ later, runPlaybooks setting depth rest between = some (later, after) ∧
              outcomes = ⟨playbook.name, ending status⟩ :: later) := by
  simp only [runPlaybooks, Option.bind_eq_bind, Option.bind_eq_some_iff, Prod.exists]
  refine exists_congr fun status => exists_congr fun between => and_congr_right fun _ => ?_
  have follows : ∀ ended : PlaybookStatus,
      (∃ later finished, runPlaybooks setting depth rest between = some (later, finished) ∧
        some (⟨playbook.name, ended⟩ :: later, finished) = some (outcomes, after)) ↔
      ∃ later, runPlaybooks setting depth rest between = some (later, after) ∧
        outcomes = ⟨playbook.name, ended⟩ :: later := by
    intro ended
    constructor
    · rintro ⟨later, finished, restRan, same⟩
      cases same
      exact ⟨later, restRan, rfl⟩
    · rintro ⟨later, restRan, rfl⟩
      exact ⟨later, after, restRan, rfl⟩
  cases status with
  | completed =>
      simp only [Option.bind_eq_some_iff, Prod.exists, follows, ending, reduceCtorEq, false_and,
        false_or, true_or, true_and]
  | failed =>
      by_cases stops : setting.policy = .abortRun
      · rw [if_pos (by simpa using stops)]
        simp only [Option.some.injEq, Prod.mk.injEq, stops, ne_eq, not_true_eq_false,
          reduceCtorEq, or_self, false_and, or_false, true_and, eq_comm]
      · rw [if_neg (by simpa using stops)]
        simp only [Option.bind_eq_some_iff, Prod.exists, follows, ending, stops, ne_eq,
          not_false_eq_true, or_true, false_and, and_false, false_or, true_and]

end RequestFlow.Execution
