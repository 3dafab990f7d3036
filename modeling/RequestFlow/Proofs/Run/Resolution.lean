import RequestFlow.Run.Requirement
import RequestFlow.Run.Resolution
import RequestFlow.Proofs.Dict

/-!
Contract: when resolutions and requirements succeed.

Owns: the exact conditions under which an acquisition stage, and the credential and
method of an `auth` entry, are found.
-/

namespace RequestFlow.Bundle

variable {bundle : Bundle}

theorem acquisitionStage_eq_ok_iff {id : String} {method : Option String} {position : Nat}
    {stage : Stage} :
    bundle.acquisitionStage id method position = .ok stage ↔
      ∃ credential named, bundle.credential? id = some credential ∧
        credential.method? method = some named ∧ named.2.requests[position]? = some stage := by
  unfold acquisitionStage
  constructor
  · intro found
    split at found
    · cases found
    · next credential declared =>
      split at found
      · cases found
      · next name method named =>
        split at found
        · next present =>
          cases found
          exact ⟨credential, (name, method), declared, named, present⟩
        · cases found
  · rintro ⟨credential, ⟨name, method⟩, declared, named, present⟩
    simp only [declared, named, present]

/-- An entry that is met names a declared credential and one of its methods. -/
theorem requirement_eq_ok {entry : String} {requirement : Requirement}
    (met : bundle.requirement entry = .ok requirement) :
    requirement.name = (AuthRef.parse entry).name ∧
      bundle.credential? (AuthRef.parse entry).name = some requirement.credential ∧
      requirement.method ∈ requirement.credential.methods.values := by
  simp only [Bundle.requirement] at met
  split at met
  · cases met
  · next credential declared =>
    split at met
    · cases met
    · next name method named =>
      cases met
      refine ⟨rfl, declared, ?_⟩
      simp only [Credential.method?, Option.map_eq_some_iff, Prod.mk.injEq] at named
      obtain ⟨found, present, -, rfl⟩ := named
      exact Dict.mem_values_of_get? present

/-- A credential that is found is one of its declarations. -/
theorem mem_entries_of_credential? {name : String} {credential : Credential}
    (found : bundle.credential? name = some credential) :
    (name, credential) ∈ bundle.credentialGroups.flatMap Dict.entries := by
  obtain ⟨group, member, present⟩ := List.exists_of_findSome?_eq_some found
  exact List.mem_flatMap.2 ⟨group, member, Dict.mem_entries_of_get? present⟩

theorem mem_credentialNames_of_credential? {name : String} {credential : Credential}
    (found : bundle.credential? name = some credential) : name ∈ bundle.credentialNames := by
  obtain ⟨group, member, present⟩ := List.mem_flatMap.1 (mem_entries_of_credential? found)
  exact List.mem_flatMap.2 ⟨group, member, List.mem_map.2 ⟨(name, credential), present, rfl⟩⟩

end RequestFlow.Bundle
