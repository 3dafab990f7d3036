import RequestFlow.Proofs.Run.Progress
import RequestFlow.Proofs.Run.Resolution
import RequestFlow.Validation.Bundle

/-!
Contract: what the checks of a valid bundle amount to.

Owns: the checked parts of a bundle, without the locations at which problems would be
reported; the playbooks that a bundle offers; and the proof that the checks cover every
stage that a run of these can come to, with the content that it resolves to.

Does not own: what follows for the resolution of stages (`Proofs.Validation.References`)
and for credentials (`Proofs.Validation.Credentials`).
-/

namespace RequestFlow

open Validation

/-! ## Checks without a finding -/

theorem require_eq_nil_iff {holds : Bool} {location message : String} :
    require holds location message = [] ↔ holds = true := by
  cases holds <;> simp [require]

theorem mem_zipIdx_of_mem {α : Type} {items : List α} {item : α} (member : item ∈ items) :
    ∃ index, (item, index) ∈ items.zipIdx := by
  obtain ⟨index, found⟩ := List.getElem?_of_mem member
  exact ⟨index, List.mk_mem_zipIdx_iff_getElem?.2 found⟩

theorem eachItem_eq_nil {α : Type} {location : String} {items : List α}
    {check : String → α → List Violation} (quiet : eachItem location items check = [])
    {item : α} (member : item ∈ items) : ∃ place, check place item = [] := by
  obtain ⟨index, among⟩ := mem_zipIdx_of_mem member
  exact ⟨_, List.flatMap_eq_nil_iff.1 quiet _ among⟩

theorem checkDeclarations_eq_nil {seen : List String} {found : List Declaration}
    (quiet : checkDeclarations seen found = []) :
    ∀ declaration ∈ found, ∃ location,
      Validation.credential location declaration.name declaration.credential = [] := by
  induction found generalizing seen with
  | nil => simp
  | cons first rest inductionHypothesis =>
      simp only [checkDeclarations, List.append_eq_nil_iff] at quiet
      obtain ⟨⟨-, here⟩, later⟩ := quiet
      exact List.forall_mem_cons.2 ⟨⟨_, here⟩, inductionHypothesis later⟩

namespace Bundle

variable {bundle : Bundle}

/-- A stage is in one of the stage lists of a bundle. -/
def Lists (bundle : Bundle) (stage : Stage) : Prop :=
  ∃ list ∈ bundle.stageLists, stage ∈ list.stages

/-- A content has no problem, wherever in the bundle it stands. -/
def ContentChecked (bundle : Bundle) (content : StageContent) : Prop :=
  ∃ location, stageContent bundle location content = []

/-- The parts of a bundle that a run depends on, found to be without a problem. -/
structure Checked (bundle : Bundle) : Prop where
  operations : ∀ id operation, bundle.operations.get? id = some operation →
    bundle.ContentChecked operation.request
  requests : ∀ id content, bundle.requests.get? id = some content →
    bundle.ContentChecked content
  credentials : ∀ name credential, bundle.credential? name = some credential →
    ∃ location, Validation.credential location name credential = []
  stages : ∀ stage, bundle.Lists stage → ∃ location, Validation.stage bundle location stage = []

theorem mem_declarations {name : String} {credential : Credential}
    (found : bundle.credential? name = some credential) :
    ∃ group, ⟨group, name, credential⟩ ∈ declarations bundle := by
  obtain ⟨group, member, entry⟩ := List.mem_flatMap.1 (mem_entries_of_credential? found)
  obtain ⟨index, among⟩ := mem_zipIdx_of_mem member
  exact ⟨index, List.mem_flatMap.2 ⟨(group, index), among, List.mem_map.2 ⟨_, entry, rfl⟩⟩⟩

theorem contentChecked_of_operation {id : String} {operation : Operation}
    (quiet : Validation.operation bundle id operation = []) :
    bundle.ContentChecked operation.request := by
  unfold Validation.operation at quiet
  have withoutTests := (List.append_eq_nil_iff.1 quiet).1
  have withoutKeys := (List.append_eq_nil_iff.1 withoutTests).1
  exact ⟨_, (List.append_eq_nil_iff.1 withoutKeys).2⟩

theorem checked_of_validate (valid : bundle.validate = .ok ()) : bundle.Checked := by
  have quiet := validate_eq_ok_iff.1 valid
  simp only [Bundle.violations, List.append_eq_nil_iff] at quiet
  obtain ⟨⟨⟨⟨⟨⟨⟨-, operations⟩, requests⟩, credentials⟩, -⟩, lists⟩, -⟩, -⟩ := quiet
  constructor
  case operations =>
    intro id found present
    exact contentChecked_of_operation
      (List.flatMap_eq_nil_iff.1 operations (id, found) (Dict.mem_entries_of_get? present))
  case requests =>
    intro id content present
    exact ⟨"$.requests." ++ id,
      List.flatMap_eq_nil_iff.1 requests (id, content) (Dict.mem_entries_of_get? present)⟩
  case credentials =>
    intro name credential found
    obtain ⟨group, declared⟩ := mem_declarations found
    exact checkDeclarations_eq_nil credentials _ declared
  case stages =>
    rintro stage ⟨list, among, member⟩
    exact eachItem_eq_nil (List.flatMap_eq_nil_iff.1 lists list among) member

/-! ## Listed stages -/

theorem lists_of_mem {list : StageList} (among : list ∈ bundle.stageLists) {stage : Stage}
    (member : stage ∈ list.stages) : bundle.Lists stage :=
  ⟨list, among, member⟩

theorem lists_before {stage : Stage} (member : stage ∈ bundle.before) : bundle.Lists stage :=
  lists_of_mem (List.mem_append_left _ (List.mem_append_left _ List.mem_cons_self)) member

theorem lists_after {stage : Stage} (member : stage ∈ bundle.after) : bundle.Lists stage :=
  lists_of_mem (List.mem_append_left _ (List.mem_append_left _
    (List.mem_cons_of_mem _ List.mem_cons_self))) member

theorem lists_of_operation {id : String} {operation : Operation}
    (present : bundle.operations.get? id = some operation) {list : StageList}
    (among : list ∈ operationStageLists id operation) {stage : Stage}
    (member : stage ∈ list.stages) : bundle.Lists stage :=
  lists_of_mem (List.mem_append_left _ (List.mem_append_right _
    (List.mem_flatMap.2 ⟨_, Dict.mem_entries_of_get? present, among⟩))) member

/-- The stages that acquire a credential are listed. -/
theorem lists_of_method {name : String} {credential : Credential} {method : CredentialMethod}
    (found : bundle.credential? name = some credential)
    (among : method ∈ credential.methods.values) {stage : Stage}
    (member : stage ∈ method.requests) : bundle.Lists stage := by
  obtain ⟨group, groupMember, entry⟩ := List.mem_flatMap.1 (mem_entries_of_credential? found)
  obtain ⟨index, groupAmong⟩ := mem_zipIdx_of_mem groupMember
  obtain ⟨⟨methodName, acquisition⟩, methodEntry, rfl⟩ := List.mem_map.1 among
  have listed : ∃ list ∈ credentialStageLists index name credential,
      stage ∈ list.stages :=
    ⟨_, List.mem_map.2 ⟨(methodName, acquisition), methodEntry, rfl⟩, member⟩
  obtain ⟨list, among, member⟩ := listed
  exact lists_of_mem (List.mem_append_right _ (List.mem_flatMap.2
    ⟨(group, index), groupAmong, List.mem_flatMap.2 ⟨_, entry, among⟩⟩)) member

theorem lists_of_acquisitionStage {id : String} {method : Option String} {position : Nat}
    {stage : Stage} (found : bundle.acquisitionStage id method position = .ok stage) :
    bundle.Lists stage := by
  obtain ⟨credential, named, declared, chosen, present⟩ := acquisitionStage_eq_ok_iff.1 found
  simp only [Credential.method?, Option.map_eq_some_iff] at chosen
  obtain ⟨acquisition, methodFound, rfl⟩ := chosen
  exact lists_of_method declared (Dict.mem_values_of_get? methodFound)
    (List.mem_of_getElem? present)

/-! ## Offered playbooks -/

/-- Playbooks that a bundle offers: those of a scenario, or of a single request. -/
def Offers (bundle : Bundle) (playbooks : List Playbook) : Prop :=
  (∃ operationId key, Playbook.ofScenario bundle operationId key = .ok playbooks) ∨
    ∃ target, Playbook.ofTarget bundle target = .ok playbooks

/-- A stage is listed, or it is made to send a single request that was looked up. -/
def Covers (bundle : Bundle) (stage : Stage) : Prop :=
  bundle.Lists stage ∨
    ∃ target resolved, stage = .reference target ∅ ∧
      bundle.resolveTarget target = .ok resolved

theorem mem_unlessEmpty {name : String} {stages : List Stage} {playbook : Playbook}
    (member : playbook ∈ Playbook.unlessEmpty name stages) : playbook.stages = stages := by
  unfold Playbook.unlessEmpty at member
  split at member
  · cases member
  · rw [List.mem_singleton.1 member]

theorem covers_wrapped {playbooks : List Playbook}
    (inner : ∀ playbook ∈ playbooks, ∀ stage ∈ playbook.stages, bundle.Covers stage) :
    ∀ playbook ∈ Playbook.wrapped bundle playbooks, ∀ stage ∈ playbook.stages,
      bundle.Covers stage := by
  intro playbook among stage member
  rcases List.mem_append.1 among with earlier | after
  · rcases List.mem_append.1 earlier with before | given
    · rw [mem_unlessEmpty before] at member
      exact .inl (lists_before member)
    · exact inner playbook given stage member
  · rw [mem_unlessEmpty after] at member
    exact .inl (lists_after member)

theorem mem_scenarios_of_chosen {operation : Operation} {key : Option String}
    {scenario : Scenario}
    (chosen : Playbook.chosenScenario? operation key = some scenario) :
    scenario ∈ operation.scenarios := by
  cases key with
  | none => exact List.mem_of_mem_head? chosen
  | some key =>
      simp only [Playbook.chosenScenario?, Operation.scenario?, Option.map_map,
        Option.map_eq_some_iff] at chosen
      obtain ⟨⟨found, index⟩, among, rfl⟩ := chosen
      exact List.mem_of_getElem?
        (List.mk_mem_zipIdx_iff_getElem?.1 (List.mem_of_find?_eq_some among))

theorem Offers.covers {playbooks : List Playbook} (offers : bundle.Offers playbooks) :
    ∀ playbook ∈ playbooks, ∀ stage ∈ playbook.stages, bundle.Covers stage := by
  rcases offers with ⟨operationId, key, made⟩ | ⟨target, made⟩
  · unfold Playbook.ofScenario at made
    split at made
    · cases made
    · next operation present =>
      split at made
      · cases made
      · next scenario chosen =>
        cases made
        refine covers_wrapped fun playbook among stage member => .inl ?_
        rcases List.mem_append.1 among with earlier | after
        · rcases List.mem_append.1 earlier with before | given
          · rw [mem_unlessEmpty before] at member
            exact lists_of_operation present (List.mem_append_left _ List.mem_cons_self) member
          · rw [List.mem_singleton.1 given] at member
            obtain ⟨index, scenarioAmong⟩ := mem_zipIdx_of_mem (mem_scenarios_of_chosen chosen)
            exact lists_of_operation present
              (List.mem_append_right _ (List.mem_map.2 ⟨_, scenarioAmong, rfl⟩)) member
        · rw [mem_unlessEmpty after] at member
          exact lists_of_operation present (List.mem_append_left _
            (List.mem_cons_of_mem _ List.mem_cons_self)) member
  · unfold Playbook.ofTarget at made
    split at made
    · cases made
    · next resolved found =>
      cases made
      refine covers_wrapped fun playbook among stage member => .inr ?_
      rw [List.mem_singleton.1 among] at member
      exact ⟨target, resolved, List.mem_singleton.1 member, found⟩

/-- A run of offered playbooks comes to covered stages only. -/
theorem CanRun.covers {playbooks : List Playbook} {stage : Stage}
    (can : bundle.CanRun playbooks stage) (offers : bundle.Offers playbooks) :
    bundle.Covers stage := by
  cases can with
  | given among member => exact offers.covers _ among stage member
  | acquired _ _ _ met member =>
      obtain ⟨-, credential, method⟩ := requirement_eq_ok met
      exact .inl (lists_of_method credential method member)

/-! ## Checked contents -/

namespace Checked

variable (checked : bundle.Checked)

include checked

theorem resolveOperation {id : String} {resolved : ResolvedStage}
    (found : bundle.resolveOperation id = .ok resolved) :
    bundle.ContentChecked resolved.content := by
  unfold Bundle.resolveOperation at found
  split at found
  · next operation present =>
    cases found
    exact checked.operations id operation present
  · cases found

theorem resolveRequest {id : String} {resolved : ResolvedStage}
    (found : bundle.resolveRequest id = .ok resolved) :
    bundle.ContentChecked resolved.content := by
  unfold Bundle.resolveRequest at found
  split at found
  · next content present =>
    cases found
    exact checked.requests id content present
  · cases found

/-- A target leads to a checked content. -/
theorem resolveTarget {target : Target} {resolved : ResolvedStage}
    (found : bundle.resolveTarget target = .ok resolved) :
    bundle.ContentChecked resolved.content := by
  cases target with
  | operation id => exact checked.resolveOperation found
  | request id => exact checked.resolveRequest found
  | credential id method position =>
      simp only [Bundle.resolveTarget] at found
      cases acquisition : bundle.acquisitionStage id method position with
      | error error =>
          rw [acquisition] at found
          cases found
      | ok acquired =>
          rw [acquisition] at found
          cases acquired with
          | inline content environment =>
              cases found
              exact checked.stages _ (lists_of_acquisitionStage acquisition)
          | reference inner environment =>
              cases inner with
              | operation id => exact checked.resolveOperation found
              | request id => exact checked.resolveRequest found
              | credential id method position => cases found

/-- A covered stage has a checked content, if it has one. -/
theorem resolve {stage : Stage} (covers : bundle.Covers stage) {resolved : ResolvedStage}
    (found : bundle.resolve stage = .ok resolved) : bundle.ContentChecked resolved.content := by
  cases stage with
  | reference target environment => exact checked.resolveTarget found
  | inline content environment =>
      cases found
      rcases covers with lists | ⟨target, resolved, same, -⟩
      · exact checked.stages _ lists
      · cases same

end Checked

end Bundle

end RequestFlow
