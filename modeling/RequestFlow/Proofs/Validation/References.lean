import RequestFlow.Proofs.Acquisition.Termination
import RequestFlow.Proofs.Validation.Checked

/-!
Contract: the references of a valid bundle.

Owns: which stages of a valid bundle resolve, and which failures to resolve a stage its
runs tell of; and a valid bundle with a stage that does not resolve.

A check looks only for the place that a credential target names. A resolution also looks
at the stage in that place, and goes no further when this is a credential target again.
-/

namespace RequestFlow

open Execution Validation

namespace Bundle

variable {bundle : Bundle}

/-- A stage has a credential target, and the acquisition stage there has one too. -/
def PointsAtCredential (bundle : Bundle) (stage : Stage) : Prop :=
  ∃ id method position environment innerId innerMethod innerPosition innerEnvironment,
    stage = .reference (.credential id method position) environment ∧
      bundle.acquisitionStage id method position =
        .ok (.reference (.credential innerId innerMethod innerPosition) innerEnvironment)

theorem PointsAtCredential.resolve {stage : Stage} (points : bundle.PointsAtCredential stage) :
    bundle.resolve stage = .error (.nestedCredential stage.label) := by
  obtain ⟨id, method, position, environment, _, _, _, _, rfl, acquisition⟩ := points
  simp only [Bundle.resolve, resolveTarget, acquisition]
  rfl

/-! ## Targets that exist -/

theorem resolveOperation_of_contains {id : String}
    (present : bundle.operations.contains id = true) :
    ∃ resolved, bundle.resolveOperation id = .ok resolved := by
  obtain ⟨operation, found⟩ := Option.isSome_iff_exists.1 present
  exact ⟨.ofOperation operation, by simp only [resolveOperation, found]⟩

theorem resolveRequest_of_contains {id : String}
    (present : bundle.requests.contains id = true) :
    ∃ resolved, bundle.resolveRequest id = .ok resolved := by
  obtain ⟨content, found⟩ := Option.isSome_iff_exists.1 present
  exact ⟨.ofContent content, by simp only [resolveRequest, found]⟩

/-- There is an acquisition stage in every place that exists. -/
theorem acquisitionStage_of_hasTarget {id : String} {method : Option String} {position : Nat}
    (present : bundle.hasTarget (.credential id method position) = true) :
    ∃ stage, bundle.acquisitionStage id method position = .ok stage := by
  simp only [hasTarget] at present
  split at present
  · next name found named =>
    obtain ⟨credential, declared, chosen⟩ := Option.bind_eq_some_iff.1 named
    have within : position < found.requests.length := of_decide_eq_true present
    exact ⟨found.requests[position], acquisitionStage_eq_ok_iff.2
      ⟨credential, (name, found), declared, chosen, List.getElem?_eq_getElem within⟩⟩
  · cases present

/-! ## Listed stages -/

namespace Checked

variable (checked : bundle.Checked)

include checked

theorem hasTarget {target : Target} {environment : Dict Json}
    (lists : bundle.Lists (.reference target environment)) : bundle.hasTarget target = true := by
  obtain ⟨location, quiet⟩ := checked.stages _ lists
  exact require_eq_nil_iff.1 quiet

/-- A listed stage resolves, unless it points at a credential target. -/
theorem resolves {stage : Stage} (lists : bundle.Lists stage)
    (direct : ¬ bundle.PointsAtCredential stage) :
    ∃ resolved, bundle.resolve stage = .ok resolved := by
  cases stage with
  | inline content environment => exact ⟨.ofContent content, rfl⟩
  | reference target environment =>
      have present := checked.hasTarget lists
      cases target with
      | operation id => exact resolveOperation_of_contains present
      | request id => exact resolveRequest_of_contains present
      | credential id method position =>
          obtain ⟨stage, acquisition⟩ := acquisitionStage_of_hasTarget present
          have inner := lists_of_acquisitionStage acquisition
          simp only [Bundle.resolve, Bundle.resolveTarget, acquisition]
          cases stage with
          | inline content innerEnvironment => exact ⟨.ofContent content, rfl⟩
          | reference target innerEnvironment =>
              have innerPresent := checked.hasTarget inner
              cases target with
              | operation id => exact resolveOperation_of_contains innerPresent
              | request id => exact resolveRequest_of_contains innerPresent
              | credential innerId innerMethod innerPosition =>
                  exact absurd ⟨id, method, position, environment, innerId, innerMethod,
                    innerPosition, innerEnvironment, rfl, acquisition⟩ direct

theorem resolves_iff {stage : Stage} (lists : bundle.Lists stage) :
    (∃ resolved, bundle.resolve stage = .ok resolved) ↔ ¬ bundle.PointsAtCredential stage := by
  refine ⟨?_, checked.resolves lists⟩
  rintro ⟨resolved, found⟩ points
  rw [points.resolve] at found
  cases found

/-- A covered stage that does not resolve is listed, and points at a credential target. -/
theorem pointsAtCredential_of_resolve {stage : Stage} (covers : bundle.Covers stage)
    {error : ResolveError} (failure : bundle.resolve stage = .error error) :
    bundle.Lists stage ∧ bundle.PointsAtCredential stage ∧
      error = .nestedCredential stage.label := by
  rcases covers with lists | ⟨target, resolved, rfl, found⟩
  · by_cases points : bundle.PointsAtCredential stage
    · rw [points.resolve] at failure
      cases failure
      exact ⟨lists, points, rfl⟩
    · obtain ⟨resolved, found⟩ := checked.resolves lists points
      rw [found] at failure
      cases failure
  · have same : bundle.resolveTarget target = .error error := failure
    rw [found] at same
    cases same

end Checked

end Bundle

/-- The stages of a valid bundle resolve, except for those that point at a credential
target by way of a credential target. A run of playbooks that the bundle offers tells of no
other failure to resolve a stage. -/
theorem valid_references_resolve {bundle : Bundle} (valid : bundle.validate = .ok ()) :
    (∀ list ∈ bundle.stageLists, ∀ stage ∈ list.stages,
      ((∃ resolved, bundle.resolve stage = .ok resolved) ↔
        ¬ bundle.PointsAtCredential stage)) ∧
    ∀ (transport : Transport) (policy : FailurePolicy) (playbooks : List Playbook)
      (seed : ScopeStack), bundle.Offers playbooks →
      ∀ error, TellsOf ⟨bundle, transport, policy⟩ playbooks seed
          (.prepareFailed (.unresolved error)) →
        ∃ list ∈ bundle.stageLists, ∃ stage ∈ list.stages,
          bundle.PointsAtCredential stage ∧ error = .nestedCredential stage.label := by
  have checked := Bundle.checked_of_validate valid
  constructor
  · exact fun list among stage member =>
      checked.resolves_iff (Bundle.lists_of_mem among member)
  · intro transport policy playbooks seed offers error told
    obtain ⟨session, stage, reached, unprepared⟩ := told.unprepared
    cases unprepared with
    | unresolved failure =>
        obtain ⟨⟨list, among, member⟩, points, named⟩ :=
          checked.pointsAtCredential_of_resolve (reached.canComeUp.covers offers) failure
        exact ⟨list, among, stage, member, points, named⟩

/-- In the bundle where a session takes the login's stage over, which is a request, every
stage resolves. -/
theorem loginByReference_key_resolves :
    (loginByReference ["key"]).validate = .ok () ∧
      ∀ error, ¬ TellsOf loginSetting signInAlone .empty (.prepareFailed (.unresolved error)) := by
  refine ⟨rfl, fun error told => ?_⟩
  obtain ⟨list, among, stage, member, points, -⟩ :=
    (valid_references_resolve rfl).2 loginSetting.transport loginSetting.policy signInAlone
      .empty (.inr ⟨.request "signIn", rfl⟩) error told
  have every : ∀ list ∈ (loginByReference ["key"]).stageLists, ∀ stage ∈ list.stages,
      ((loginByReference ["key"]).resolve stage).isOk = true := by decide
  have resolves := every list among stage member
  rw [points.resolve] at resolves
  cases resolves

/-! ## A borrowed login

The login takes over the first stage of the key, which sends a request. The bundle starts
with the first stage of the login. -/

def borrowedLogin : Bundle :=
  { Bundle.empty with
    before := [.reference (.credential "login" none 0) ∅]
    requests := Dict.ofList
      [("ping", ⟨none, ⟨"GET", "http://host/ping", .none, none⟩, [], none, ∅⟩)]
    credentialGroups := [Dict.ofList
      [("key", bearerOf
        [.inline ⟨none, ⟨"GET", "http://host/key", .none, none⟩, [], none, ∅⟩ ∅]),
      ("login", bearerOf [.reference (.credential "key" none 0) ∅])]] }

/-- The bundle is valid, its first stage does not resolve, and the run of its request tells
of this. -/
theorem borrowedLogin_unresolved :
    borrowedLogin.validate = .ok () ∧
      ∃ list ∈ borrowedLogin.stageLists, ∃ stage ∈ list.stages,
        borrowedLogin.resolve stage = .error (.nestedCredential "credential:login[0]") ∧
        ∃ playbooks, Playbook.ofTarget borrowedLogin (.request "ping") = .ok playbooks ∧
          ∃ run, Run.within 1 ⟨borrowedLogin, .constant (.ofStatus 200), .abortRun⟩ playbooks
              .empty = some run ∧
            .prepareFailed (.unresolved (.nestedCredential "credential:login[0]")) ∈
              run.events := by
  refine ⟨rfl, _, List.mem_cons_self, _, List.mem_cons_self, rfl, _, rfl, _, rfl, ?_⟩
  decide

end RequestFlow
