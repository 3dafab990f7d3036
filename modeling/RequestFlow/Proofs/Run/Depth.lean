import RequestFlow.Proofs.Run.Inversion

/-!
Contract: how the result of a run depends on the depth that acquisitions may have.

Owns: a run that has a result keeps it at every greater depth, so that the search for a
depth finds it; and a run has a result when each acquisition that it asks for has one.
-/

namespace RequestFlow

namespace Execution

/-- Every result of the first acquirer is the result of the second. -/
def Acquirer.Extends (smaller larger : Acquirer) : Prop :=
  ∀ entry session result, smaller entry session = some result →
    larger entry session = some result

/-! ## Greater depths keep a result -/

section Extends

variable {setting : Setting} {smaller larger : Acquirer} (covers : smaller.Extends larger)

include covers

theorem authorize_extends {entries : List String} {session : Session}
    {result : Authorization × Session}
    (done : authorize smaller entries session = some result) :
    authorize larger entries session = some result := by
  induction entries generalizing session result with
  | nil => exact done
  | cons entry rest inductionHypothesis =>
      obtain ⟨authorization, after⟩ := result
      rw [authorize_cons_eq_some_iff] at done ⊢
      obtain ⟨first, worked, more, acquired, later, made⟩ := done
      exact ⟨first, worked, more, covers _ _ _ acquired, inductionHypothesis later, made⟩

theorem runStage_extends {stage : Stage} {session : Session} {result : StageStatus × Session}
    (done : runStage setting smaller stage session = some result) :
    runStage setting larger stage session = some result := by
  obtain ⟨status, after⟩ := result
  rw [runStage_eq_some_iff] at done ⊢
  rcases done with unresolved | ⟨resolved, authorization, authorized, found, entries, made⟩
  · exact .inl unresolved
  · exact .inr ⟨resolved, authorization, authorized, found,
      authorize_extends covers entries, made⟩

theorem runStages_extends {stages : List Stage} {session : Session}
    {result : StageStatus × Session}
    (done : runStages setting smaller stages session = some result) :
    runStages setting larger stages session = some result := by
  induction stages generalizing session result with
  | nil => exact done
  | cons stage rest inductionHypothesis =>
      obtain ⟨status, after⟩ := result
      rw [runStages_cons_eq_some_iff] at done ⊢
      obtain ⟨first, between, ran, continued⟩ := done
      refine ⟨first, between, runStage_extends covers ran, continued.imp_right ?_⟩
      rintro ⟨goesOn, later, laterRan, made⟩
      exact ⟨goesOn, later, inductionHypothesis laterRan, made⟩

theorem runPlaybook_extends {name : String} {stages : List Stage} {session : Session}
    {result : StageStatus × Session}
    (done : runPlaybook setting smaller name stages session = some result) :
    runPlaybook setting larger name stages session = some result := by
  obtain ⟨status, after⟩ := result
  rw [runPlaybook_eq_some_iff] at done ⊢
  obtain ⟨between, ran, made⟩ := done
  exact ⟨between, runStages_extends covers ran, made⟩

theorem runMethod_extends {requirement : Requirement} {session worked : Session}
    (done : runMethod setting smaller requirement session = some worked) :
    runMethod setting larger requirement session = some worked := by
  rw [runMethod_eq_some_iff] at done ⊢
  refine done.imp_right ?_
  rintro ⟨staged, status, ran⟩
  exact ⟨staged, status, runPlaybook_extends covers ran⟩

theorem acquire_extends : (acquire setting smaller).Extends (acquire setting larger) := by
  rintro entry session ⟨result, after⟩ done
  rw [acquire_eq_some_iff] at done ⊢
  refine done.imp_right ?_
  rintro ⟨requirement, copy, acquired, met, worked, made⟩
  exact ⟨requirement, copy, acquired, met, runMethod_extends covers worked, made⟩

end Extends

theorem acquireWithin_extends (setting : Setting) {depth deeper : Nat} (le : depth ≤ deeper) :
    (acquireWithin setting depth).Extends (acquireWithin setting deeper) := by
  induction depth generalizing deeper with
  | zero =>
      intro entry session result done
      cases done
  | succ depth inductionHypothesis =>
      obtain ⟨deeper, rfl⟩ : ∃ before, deeper = before + 1 := ⟨deeper - 1, by omega⟩
      exact acquire_extends (inductionHypothesis (by omega))

theorem runPlaybooks_deeper {setting : Setting} {depth deeper : Nat} (le : depth ≤ deeper)
    {playbooks : List Playbook} {session : Session} {result : List PlaybookOutcome × Session}
    (done : runPlaybooks setting depth playbooks session = some result) :
    runPlaybooks setting deeper playbooks session = some result := by
  induction playbooks generalizing session result with
  | nil => exact done
  | cons playbook rest inductionHypothesis =>
      obtain ⟨outcomes, after⟩ := result
      rw [runPlaybooks_cons_eq_some_iff] at done ⊢
      obtain ⟨status, between, ran, continued⟩ := done
      refine ⟨status, between,
        runPlaybook_extends (acquireWithin_extends setting le) ran, continued.imp_right ?_⟩
      rintro ⟨goesOn, later, laterRan, made⟩
      exact ⟨goesOn, later, inductionHypothesis laterRan, made⟩

/-! ## Runs that have a result -/

/-- An acquirer has a result for an entry, whatever the session. -/
def Acquirer.Meets (acquirer : Acquirer) (entry : String) : Prop :=
  ∀ session, ∃ result, acquirer entry session = some result

/-- An acquirer has a result for every entry of the content that a stage resolves to. -/
def Acquirer.MeetsStage (acquirer : Acquirer) (bundle : Bundle) (stage : Stage) : Prop :=
  ∀ resolved, bundle.resolve stage = .ok resolved →
    ∀ entry ∈ resolved.content.auth, acquirer.Meets entry

section Meets

variable {setting : Setting} {acquirer : Acquirer}

theorem authorize_eq_some {entries : List String}
    (meets : ∀ entry ∈ entries, acquirer.Meets entry) (session : Session) :
    ∃ result, authorize acquirer entries session = some result := by
  induction entries generalizing session with
  | nil => exact ⟨_, rfl⟩
  | cons entry rest inductionHypothesis =>
      obtain ⟨⟨first, acquired⟩, firstDone⟩ :=
        meets entry List.mem_cons_self (session.tell (.authStarted entry))
      obtain ⟨more, laterDone⟩ := inductionHypothesis
        (fun entry member => meets entry (List.mem_cons_of_mem _ member))
        ((acquired.adopt first).tell (.authFinished entry))
      refine ⟨(more.1.cons (first.map Acquisition.credential), more.2), ?_⟩
      simp only [authorize, firstDone, laterDone, Option.bind_eq_bind, Option.bind_some]

theorem runStage_eq_some {stage : Stage}
    (meets : acquirer.MeetsStage setting.bundle stage) (session : Session) :
    ∃ result, runStage setting acquirer stage session = some result := by
  unfold runStage
  split
  · exact ⟨_, rfl⟩
  · next resolved found =>
    obtain ⟨authorized, done⟩ := authorize_eq_some (meets resolved found) session
    exact ⟨_, by rw [done]; rfl⟩

theorem runStages_eq_some {stages : List Stage}
    (meets : ∀ stage ∈ stages, acquirer.MeetsStage setting.bundle stage) (session : Session) :
    ∃ result, runStages setting acquirer stages session = some result := by
  induction stages generalizing session with
  | nil => exact ⟨_, rfl⟩
  | cons stage rest inductionHypothesis =>
      obtain ⟨⟨status, after⟩, firstDone⟩ :=
        runStage_eq_some (meets stage List.mem_cons_self) session
      obtain ⟨later, laterDone⟩ := inductionHypothesis
        (fun stage member => meets stage (List.mem_cons_of_mem _ member)) after
      simp only [runStages, firstDone, laterDone, Option.bind_eq_bind, Option.bind_some]
      split <;> exact ⟨_, rfl⟩

theorem runPlaybook_eq_some {stages : List Stage}
    (meets : ∀ stage ∈ stages, acquirer.MeetsStage setting.bundle stage) (name : String)
    (session : Session) :
    ∃ result, runPlaybook setting acquirer name stages session = some result := by
  obtain ⟨⟨status, after⟩, done⟩ :=
    runStages_eq_some meets (session.tell (.playbookStarted name))
  simp only [runPlaybook, done, Option.bind_eq_bind, Option.bind_some]
  split <;> exact ⟨_, rfl⟩

/-- An entry is met when its requirement is, and the stages of its method are met by
the acquirer of the next depth. -/
theorem acquire_meets {entry : String}
    (meets : ∀ requirement, setting.bundle.requirement entry = .ok requirement →
      ∀ stage ∈ requirement.method.requests, acquirer.MeetsStage setting.bundle stage) :
    (acquire setting acquirer).Meets entry := by
  intro session
  unfold acquire
  split
  · exact ⟨_, rfl⟩
  · next requirement met =>
    have worked : ∃ worked, runMethod setting acquirer requirement session = some worked := by
      unfold runMethod
      split
      · exact ⟨_, rfl⟩
      · obtain ⟨result, done⟩ :=
          runPlaybook_eq_some (meets requirement met) requirement.name session
        exact ⟨_, by rw [done]; rfl⟩
    obtain ⟨worked, done⟩ := worked
    exact ⟨_, by rw [done]; rfl⟩

theorem runPlaybooks_eq_some {depth : Nat} {playbooks : List Playbook}
    (meets : ∀ entry, (acquireWithin setting depth).Meets entry) (session : Session) :
    ∃ result, runPlaybooks setting depth playbooks session = some result := by
  induction playbooks generalizing session with
  | nil => exact ⟨_, rfl⟩
  | cons playbook rest inductionHypothesis =>
      have meetsStages : ∀ stage ∈ playbook.stages,
          (acquireWithin setting depth).MeetsStage setting.bundle stage :=
        fun _ _ _ _ entry _ => meets entry
      obtain ⟨⟨status, after⟩, firstDone⟩ :=
        runPlaybook_eq_some meetsStages playbook.name session
      obtain ⟨later, laterDone⟩ := inductionHypothesis after
      simp only [runPlaybooks, firstDone, laterDone, Option.bind_eq_bind, Option.bind_some]
      split
      · exact ⟨_, rfl⟩
      · split <;> exact ⟨_, rfl⟩

end Meets

end Execution

/-- A run that ends within a depth ends in the same way within every greater one. -/
theorem Run.within_deeper {setting : Execution.Setting} {depth deeper : Nat}
    (le : depth ≤ deeper) {playbooks : List Playbook} {seed : ScopeStack} {run : Run}
    (done : Run.within depth setting playbooks seed = some run) :
    Run.within deeper setting playbooks seed = some run := by
  simp only [Run.within, Option.bind_eq_bind, Option.bind_eq_some_iff] at done ⊢
  obtain ⟨result, ran, made⟩ := done
  exact ⟨result, Execution.runPlaybooks_deeper le ran, made⟩

/-! ## Runs that end -/

namespace Run

section Search

variable {setting : Execution.Setting} {playbooks : List Playbook} {seed : ScopeStack} {run : Run}

end Search

end Run

end RequestFlow
