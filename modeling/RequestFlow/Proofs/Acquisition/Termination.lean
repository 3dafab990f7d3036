import Mathlib.Data.List.Dedup
import RequestFlow.Proofs.Acquisition.Dependency
import RequestFlow.Proofs.Run.Depth

/-!
Contract: runs of a valid bundle and the end of their acquisitions.

Owns: the end of every run over a bundle whose needs have no cycle, within a depth that
the declared names bound; the exact condition under which the needs of a valid bundle
have no cycle; and a valid bundle whose acquisitions never end.
-/

namespace RequestFlow

open Relation Execution

/-- Every run over a bundle ends, and a depth of one more than the number of declared
names is enough. -/
def Bundle.EveryRunEnds (bundle : Bundle) : Prop :=
  ∀ (transport : Transport) (policy : FailurePolicy) (playbooks : List Playbook)
    (seed : ScopeStack),
    ∃ run, ∀ depth, bundle.credentialNames.dedup.length < depth →
      Run.within depth ⟨bundle, transport, policy⟩ playbooks seed = some run

/-! ## Needs without cycles -/

/-- An acquisition ends when the acquisitions around it, the trail, leave room for one
more name. Each of them needs the credential at hand, so that it is none of theirs. -/
theorem acquireWithin_meets {setting : Setting}
    (acyclic : ∀ name, ¬ TransGen setting.bundle.Needs name name) (depth : Nat)
    (trail : List String) (distinct : trail.Nodup)
    (declared : trail ⊆ setting.bundle.credentialNames)
    (room : setting.bundle.credentialNames.dedup.length < depth + trail.length)
    (entry : String)
    (around : ∀ name ∈ trail, TransGen setting.bundle.Needs name (AuthRef.parse entry).name) :
    (acquireWithin setting depth).Meets entry := by
  induction depth generalizing trail entry with
  | zero =>
      have short : trail.length ≤ setting.bundle.credentialNames.dedup.length :=
        (List.subperm_of_subset distinct fun name member =>
          List.mem_dedup.2 (declared member)).length_le
      omega
  | succ depth inductionHypothesis =>
      refine acquire_meets fun requirement met stage stageMember resolved found next member => ?_
      obtain ⟨-, credential, method⟩ := Bundle.requirement_eq_ok met
      have need : setting.bundle.Needs (AuthRef.parse entry).name (AuthRef.parse next).name :=
        ⟨stage, ⟨requirement.credential, credential, requirement.method, method, stageMember⟩,
          ⟨resolved, found, next, member, rfl⟩⟩
      refine inductionHypothesis ((AuthRef.parse entry).name :: trail) ?_ ?_ ?_ next ?_
      · refine List.nodup_cons.2 ⟨fun onTrail => ?_, distinct⟩
        exact acyclic _ (around _ onTrail)
      · exact List.cons_subset.2
          ⟨Bundle.mem_credentialNames_of_credential? credential, declared⟩
      · simp only [List.length_cons]
        omega
      · intro name onTrail
        rcases List.mem_cons.1 onTrail with here | further
        · exact here ▸ TransGen.single need
        · exact (around name further).tail need

/-- Every run ends over a bundle, valid or not, whose needs have no cycle. -/
theorem everyRunEnds_of_acyclic {bundle : Bundle}
    (acyclic : ∀ name, ¬ TransGen bundle.Needs name name) : bundle.EveryRunEnds := by
  intro transport policy playbooks seed
  let setting : Setting := ⟨bundle, transport, policy⟩
  let least := bundle.credentialNames.dedup.length + 1
  have meets : ∀ entry, (acquireWithin setting least).Meets entry := by
    intro entry
    refine acquireWithin_meets acyclic least [] List.nodup_nil (List.nil_subset _) ?_ entry ?_
    · show bundle.credentialNames.dedup.length < least + 0
      omega
    · intro name onTrail
      cases onTrail
  obtain ⟨result, done⟩ := runPlaybooks_eq_some meets (.start seed)
  refine ⟨⟨⟨result.2.stack, result.1⟩, result.2.events, result.2.sent⟩, fun depth enough => ?_⟩
  refine Run.within_deeper (Nat.succ_le_of_lt enough) ?_
  show (runPlaybooks setting least playbooks (.start seed)).bind _ = _
  rw [done]
  rfl

/-- The needs of a valid bundle have no cycle, and its runs end, exactly when no need
that arises from a stage that points at a reference leads back to where it arises. -/
theorem valid_bundle_ends_iff {bundle : Bundle} (valid : bundle.validate = .ok ()) :
    ((∀ name, ¬ TransGen bundle.Needs name name) ∧ bundle.EveryRunEnds) ↔
      ∀ name needed, bundle.NeedsThroughReference name needed →
        ¬ ReflTransGen bundle.Needs needed name := by
  constructor
  · rintro ⟨acyclic, -⟩
    exact (acyclic_needs_iff valid).1 acyclic
  · intro noReturn
    have acyclic := (acyclic_needs_iff valid).2 noReturn
    exact ⟨acyclic, everyRunEnds_of_acyclic acyclic⟩

/-! ## A login by reference

The session is acquired by way of the first stage of the login, and this stage is a
reference to the request that signs in. The graph has no edge from the session to what
the request asks for. -/

/-- A bearer credential with one method. -/
def bearerOf (stages : List Stage) : Credential :=
  ⟨.bearer, none, none, "main", Dict.ofList [("main", ⟨"secret", stages⟩)]⟩

/-- The bundle in which signing in asks for some entries. -/
def loginByReference (entries : List String) : Bundle :=
  { Bundle.empty with
    requests := Dict.ofList
      [("signIn", ⟨none, ⟨"GET", "http://host/", .none, none⟩, entries, none, ∅⟩)]
    credentialGroups := [Dict.ofList [("key", bearerOf []),
      ("login", bearerOf [.reference (.request "signIn") ∅]),
      ("session", bearerOf [.reference (.credential "login" none 0) ∅])]] }

private theorem acquiredBy_loginByReference {entries : List String} {name : String}
    {stage : Stage} (acquired : (loginByReference entries).AcquiredBy name stage) :
    name = "login" ∧ stage = .reference (.request "signIn") ∅ ∨
      name = "session" ∧ stage = .reference (.credential "login" none 0) ∅ := by
  obtain ⟨credential, found, method, methodMember, stageMember⟩ := acquired
  have declared : (name, credential) ∈ [("key", bearerOf []),
      ("login", bearerOf [.reference (.request "signIn") ∅]),
      ("session", bearerOf [.reference (.credential "login" none 0) ∅])] :=
    Bundle.mem_entries_of_credential? found
  have only : ∀ stages, method ∈ (bearerOf stages).methods.values → stage ∈ stages := by
    intro stages member
    have same : method = ⟨"secret", stages⟩ := List.mem_singleton.1 member
    rwa [same] at stageMember
  simp only [List.mem_cons, Prod.mk.injEq, List.not_mem_nil, or_false] at declared
  rcases declared with ⟨rfl, rfl⟩ | ⟨rfl, rfl⟩ | ⟨rfl, rfl⟩
  · cases only _ methodMember
  · exact .inl ⟨rfl, List.mem_singleton.1 (only _ methodMember)⟩
  · exact .inr ⟨rfl, List.mem_singleton.1 (only _ methodMember)⟩

private theorem needs_loginByReference {entries : List String} {name needed : String}
    (need : (loginByReference entries).Needs name needed) :
    name ≠ "key" ∧ ∃ entry ∈ entries, (AuthRef.parse entry).name = needed := by
  obtain ⟨stage, acquired, resolved, found, asked⟩ := need
  rcases acquiredBy_loginByReference acquired with ⟨rfl, rfl⟩ | ⟨rfl, rfl⟩
  · cases found
    exact ⟨by decide, asked⟩
  · cases found
    exact ⟨by decide, asked⟩

/-- Signing in with a key, which needs nothing, leads nowhere back. -/
theorem acyclic_loginByReference_key (name : String) :
    ¬ TransGen (loginByReference ["key"]).Needs name name := by
  intro cycle
  obtain ⟨needed, need, back⟩ := TransGen.head'_iff.1 cycle
  obtain ⟨nameNotKey, entry, member, named⟩ := needs_loginByReference need
  obtain rfl : needed = "key" := by
    rw [← named, List.mem_singleton.1 member]
    rfl
  rcases back.cases_head with same | ⟨next, further, -⟩
  · exact nameNotKey same.symm
  · exact (needs_loginByReference further).1 rfl

theorem loginByReference_key_ends :
    (loginByReference ["key"]).validate = .ok () ∧ (loginByReference ["key"]).EveryRunEnds := by
  refine ⟨rfl, ((valid_bundle_ends_iff rfl).2 fun name needed need back => ?_).2⟩
  exact acyclic_loginByReference_key name (TransGen.head' need.needs back)

/-- Runs in which the login signs in with the key. -/
def loginSetting : Setting :=
  ⟨loginByReference ["key"], .constant (.ofStatus 200), .standard⟩

/-- A request that asks for the login. -/
def loginAsked : List Playbook :=
  [⟨"Request", [.inline ⟨none, ⟨"GET", "http://host/", .none, none⟩, ["login"], none, ∅⟩ ∅]⟩]

theorem exists_run_loginAsked : ∃ run, Run.within 4 loginSetting loginAsked .empty = some run := by
  obtain ⟨run, ended⟩ := everyRunEnds_of_acyclic acyclic_loginByReference_key
    loginSetting.transport loginSetting.policy loginAsked .empty
  exact ⟨run, ended 4 (by decide)⟩

/-- An acquisition that asks first of all for itself has no result at any depth. -/
theorem acquireWithin_eq_none {setting : Setting} {entry : String} {requirement : Requirement}
    {stage : Stage} {later : List Stage} {resolved : ResolvedStage} {others : List String}
    (met : setting.bundle.requirement entry = .ok requirement)
    (stages : requirement.method.requests = stage :: later)
    (found : setting.bundle.resolve stage = .ok resolved)
    (asks : resolved.content.auth = entry :: others) (depth : Nat) (session : Session) :
    acquireWithin setting depth entry session = none := by
  induction depth generalizing session with
  | zero => rfl
  | succ depth inductionHypothesis =>
      have methodStuck :
          runMethod setting (acquireWithin setting depth) requirement session = none := by
        simp [runMethod, stages, runPlaybook, runStages, runStage, found, asks, authorize,
          inductionHypothesis]
      simp [acquireWithin, acquire, met, methodStuck]

/-- The request that signs in, run on its own. -/
def signInAlone : List Playbook := [⟨"Request", [.reference (.request "signIn") ∅]⟩]

/-- Signing in with the session: the bundle is valid, the session needs itself, and the
run of the request has no result at any depth. -/
theorem loginByReference_session_never_ends :
    (loginByReference ["session"]).validate = .ok () ∧
      (loginByReference ["session"]).Needs "session" "session" ∧
      Playbook.ofTarget (loginByReference ["session"]) (.request "signIn") = .ok signInAlone ∧
      ∀ depth, Run.within depth
        ⟨loginByReference ["session"], .constant (.ofStatus 200), .standard⟩ signInAlone
        .empty = none := by
  refine ⟨rfl, ?_, rfl, fun depth => ?_⟩
  · refine ⟨.reference (.credential "login" none 0) ∅, ⟨_, rfl, _, List.mem_singleton.2 rfl, ?_⟩,
      _, rfl, "session", List.mem_singleton.2 rfl, rfl⟩
    exact List.mem_singleton.2 rfl
  · let setting : Setting :=
      ⟨loginByReference ["session"], .constant (.ofStatus 200), .standard⟩
    have stuck : ∀ session, acquireWithin setting depth "session" session = none :=
      acquireWithin_eq_none rfl rfl rfl rfl depth
    have found : setting.bundle.resolve (.reference (.request "signIn") ∅) =
        .ok (.ofContent ⟨none, ⟨"GET", "http://host/", .none, none⟩, ["session"], none, ∅⟩) :=
      rfl
    have stageStuck : ∀ session, runStage setting (acquireWithin setting depth)
        (.reference (.request "signIn") ∅) session = none := by
      intro session
      simp [runStage, found, ResolvedStage.ofContent, authorize, stuck]
    show Run.within depth setting signInAlone .empty = none
    simp [Run.within, signInAlone, runPlaybooks, runPlaybook, runStages, stageStuck]

end RequestFlow
