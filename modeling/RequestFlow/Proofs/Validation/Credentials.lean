import RequestFlow.Proofs.Acquisition.Termination
import RequestFlow.Proofs.Validation.Checked

/-!
Contract: the credentials of a valid bundle.

Owns: that every entry a run comes to is met, that every credential acquired for a stage
can be placed on its request, and the failures to prepare a request that remain.

Does not own: which references of a valid bundle resolve (`Proofs.Validation.References`).
-/

namespace RequestFlow

open Execution Validation

/-! ## Placing credentials -/

/-- A credential has what is needed to place it on a request. -/
def Credential.Placeable (credential : Credential) : Prop :=
  credential.kind = .apiKey → credential.name.isSome = true

theorem PreparedRequest.applyCredential_of_placeable {acquired : AcquiredCredential}
    (placeable : acquired.credential.Placeable) (request : PreparedRequest) :
    ∃ placed, request.applyCredential acquired = .ok placed := by
  unfold applyCredential
  split
  · next isKey =>
    obtain ⟨name, named⟩ := Option.isSome_iff_exists.1 (placeable isKey)
    rw [named]
    split
    · next missing => cases missing
    · split <;> exact ⟨_, rfl⟩
  · exact ⟨_, rfl⟩
  · exact ⟨_, rfl⟩
  · exact ⟨_, rfl⟩

theorem foldlM_applyCredential_of_placeable {credentials : List AcquiredCredential}
    (placeable : ∀ acquired ∈ credentials, acquired.credential.Placeable)
    (request : PreparedRequest) :
    ∃ placed, credentials.foldlM PreparedRequest.applyCredential request = .ok placed := by
  induction credentials generalizing request with
  | nil => exact ⟨request, rfl⟩
  | cons acquired rest inductionHypothesis =>
      obtain ⟨hasFirst, hasRest⟩ := List.forall_mem_cons.1 placeable
      obtain ⟨placed, applied⟩ :=
        PreparedRequest.applyCredential_of_placeable hasFirst request
      rw [List.foldlM_cons, applied]
      exact inductionHypothesis hasRest placed

/-- An error of the URL that a template is for. -/
def PrepareError.OfUrl (error : PrepareError) : Prop :=
  (∃ url reason, error = .invalidUrl url reason) ∨ ∃ scheme, error = .unsupportedScheme scheme

theorem PreparedRequest.ofUrl_of_targetUrl {template : RequestTemplate} {error : PrepareError}
    (failure : targetUrl template = .error error) : error.OfUrl := by
  simp only [targetUrl] at failure
  split at failure
  · cases failure
    exact .inl ⟨_, _, rfl⟩
  · cases failure
    exact .inr ⟨_, rfl⟩
  · cases failure

theorem PreparedRequest.ofUrl_of_prepare {template : RequestTemplate} {error : PrepareError}
    (failure : prepare template = .error error) : error.OfUrl := by
  unfold prepare at failure
  cases parsed : targetUrl template with
  | error urlError =>
      rw [parsed] at failure
      cases failure
      exact ofUrl_of_targetUrl parsed
  | ok url =>
      rw [parsed] at failure
      cases failure

/-- Only the URL can be in the way of a request whose credentials can be placed. -/
theorem ofUrl_of_prepareRequest {template : RequestTemplate}
    {credentials : List AcquiredCredential}
    (placeable : ∀ acquired ∈ credentials, acquired.credential.Placeable)
    {error : PrepareError} (failure : prepareRequest template credentials = .error error) :
    error.OfUrl := by
  unfold prepareRequest at failure
  cases prepared : PreparedRequest.prepare template with
  | error urlError =>
      rw [prepared] at failure
      cases failure
      exact PreparedRequest.ofUrl_of_prepare prepared
  | ok request =>
      obtain ⟨placed, applied⟩ := foldlM_applyCredential_of_placeable placeable request
      rw [prepared] at failure
      change (credentials.foldlM PreparedRequest.applyCredential request).bind _ = _ at failure
      rw [applied] at failure
      cases failure

/-! ## Checked entries -/

namespace Bundle

variable {bundle : Bundle}

/-- An entry is met, by a credential that can be placed. -/
def Provides (bundle : Bundle) (entry : String) : Prop :=
  ∃ requirement, bundle.requirement entry = .ok requirement ∧ requirement.credential.Placeable

theorem placeable_of_credential {location name : String} {credential : Credential}
    (quiet : Validation.credential location name credential = []) : credential.Placeable := by
  intro isKey
  simp only [Validation.credential, List.append_eq_nil_iff, require_eq_nil_iff] at quiet
  obtain ⟨⟨⟨-, named⟩, -⟩, -⟩ := quiet
  cases found : credential.name with
  | some name => rfl
  | none => simp [isKey, found] at named

theorem contains_default_of_credential {location name : String} {credential : Credential}
    (quiet : Validation.credential location name credential = []) :
    credential.methods.contains credential.defaultMethod = true := by
  simp only [Validation.credential, List.append_eq_nil_iff, require_eq_nil_iff] at quiet
  exact quiet.1.1.1

theorem requirement_of_contains {entry : String} {credential : Credential}
    (declared : bundle.credential? (AuthRef.parse entry).name = some credential)
    (present : credential.methods.contains
      ((AuthRef.parse entry).method.getD credential.defaultMethod) = true) :
    ∃ method, bundle.requirement entry =
      .ok ⟨(AuthRef.parse entry).name, credential, method⟩ := by
  obtain ⟨method, found⟩ := Option.isSome_iff_exists.1 present
  have named : credential.method? (AuthRef.parse entry).method =
      some ((AuthRef.parse entry).method.getD credential.defaultMethod, method) :=
    Option.map_eq_some_iff.2 ⟨method, found, rfl⟩
  refine ⟨method, ?_⟩
  simp only [requirement, declared, named]

namespace Checked

variable (checked : bundle.Checked)

include checked

theorem provides_of_authEntry {location entry : String}
    (quiet : authEntry bundle location entry = []) : bundle.Provides entry := by
  unfold authEntry at quiet
  cases declared : bundle.credential? (AuthRef.parse entry).name with
  | none => simp [declared] at quiet
  | some credential =>
      obtain ⟨place, credentialQuiet⟩ := checked.credentials _ credential declared
      have present : credential.methods.contains
          ((AuthRef.parse entry).method.getD credential.defaultMethod) = true := by
        cases named : (AuthRef.parse entry).method with
        | none => exact contains_default_of_credential credentialQuiet
        | some method => simpa [declared, named, require_eq_nil_iff] using quiet
      obtain ⟨method, met⟩ := requirement_of_contains declared present
      exact ⟨_, met, placeable_of_credential credentialQuiet⟩

theorem provides_of_contentChecked {content : StageContent}
    (contentChecked : bundle.ContentChecked content) {entry : String}
    (asked : entry ∈ content.auth) : bundle.Provides entry := by
  obtain ⟨location, quiet⟩ := contentChecked
  unfold stageContent at quiet
  have beforeResponses := (List.append_eq_nil_iff.1 quiet).1
  have beforeDefault := (List.append_eq_nil_iff.1 beforeResponses).1
  obtain ⟨place, entryQuiet⟩ :=
    eachItem_eq_nil (List.append_eq_nil_iff.1 beforeDefault).2 asked
  exact checked.provides_of_authEntry entryQuiet

/-- Every entry that a covered stage asks for is met. -/
theorem provides {stage : Stage} (covers : bundle.Covers stage) {resolved : ResolvedStage}
    (found : bundle.resolve stage = .ok resolved) :
    ∀ entry ∈ resolved.content.auth, bundle.Provides entry :=
  fun _ asked => checked.provides_of_contentChecked (checked.resolve covers found) asked

end Checked

end Bundle

/-! ## Acquisitions -/

namespace Execution

variable {setting : Setting}

theorem acquire_of_requirement {inner : Acquirer} {entry : String} {requirement : Requirement}
    (met : setting.bundle.requirement entry = .ok requirement) {session after : Session}
    {result : Except AuthError Acquisition}
    (ran : acquire setting inner entry session = some (result, after)) :
    ∃ acquisition, result = .ok acquisition ∧
      acquisition.credential.credential = requirement.credential := by
  rcases acquire_eq_some_iff.1 ran with
    ⟨error, failure, -⟩ | ⟨other, copy, acquired, otherMet, -, rfl, rfl, -⟩
  · rw [met] at failure
    cases failure
  · rw [met] at otherMet
    cases otherMet
    exact ⟨_, rfl, rfl⟩

theorem acquireWithin_of_provides {depth : Nat} {entry : String}
    (provides : setting.bundle.Provides entry) {session after : Session}
    {result : Except AuthError Acquisition}
    (ran : acquireWithin setting depth entry session = some (result, after)) :
    ∃ acquisition, result = .ok acquisition ∧
      acquisition.credential.credential.Placeable := by
  obtain ⟨requirement, met, placeable⟩ := provides
  cases depth with
  | zero => cases ran
  | succ depth =>
      obtain ⟨acquisition, done, same⟩ := acquire_of_requirement met ran
      exact ⟨acquisition, done, same ▸ placeable⟩

/-- Entries that are met are all acquired, and what was acquired can be placed. -/
theorem authorize_of_provides {depth : Nat} {entries : List String}
    (provides : ∀ entry ∈ entries, setting.bundle.Provides entry) {session after : Session}
    {authorization : Authorization}
    (ran : authorize (acquireWithin setting depth) entries session =
      some (authorization, after)) :
    authorization.error = none ∧
      ∀ acquired ∈ authorization.credentials, acquired.credential.Placeable := by
  induction entries generalizing session authorization with
  | nil =>
      cases ran
      exact ⟨rfl, by simp⟩
  | cons entry rest inductionHypothesis =>
      obtain ⟨providesFirst, providesRest⟩ := List.forall_mem_cons.1 provides
      obtain ⟨first, worked, more, firstRan, restRan, rfl⟩ := authorize_cons_eq_some_iff.1 ran
      obtain ⟨acquisition, rfl, placeable⟩ :=
        acquireWithin_of_provides providesFirst firstRan
      obtain ⟨noError, restPlaceable⟩ := inductionHypothesis providesRest restRan
      exact ⟨noError, List.forall_mem_cons.2 ⟨placeable, restPlaceable⟩⟩

/-- What a run does with credentials never fails. `met` and `acquired` are about each entry
that the run comes to, `placed` about each stage whose entries have been gone through, and
`told` about all that the run tells of. -/
structure CredentialsUsable (setting : Setting) (playbooks : List Playbook)
    (seed : ScopeStack) : Prop where
  met : ∀ session entry, Reaches setting playbooks seed ⟨session, .entry entry⟩ →
    ∃ requirement, setting.bundle.requirement entry = .ok requirement
  acquired : ∀ session entry, Reaches setting playbooks seed ⟨session, .entry entry⟩ →
    ∀ depth result after, acquireWithin setting depth entry session = some (result, after) →
      ∃ acquisition, result = .ok acquisition
  placed : ∀ session stage, Reaches setting playbooks seed ⟨session, .stage stage⟩ →
    ∀ resolved, setting.bundle.resolve stage = .ok resolved →
    ∀ depth authorization after,
      authorize (acquireWithin setting depth) resolved.content.auth session =
          some (authorization, after) →
        authorization.error = none ∧
          ∀ acquired ∈ authorization.credentials, ∀ request : PreparedRequest,
            ∃ placed, request.applyCredential acquired = .ok placed
  told : ∀ error, TellsOf setting playbooks seed (.prepareFailed error) →
    (∃ failure, error = .unresolved failure) ∨
      (∃ url failure, error = .preparation (.invalidUrl url failure)) ∨
      ∃ scheme, error = .preparation (.unsupportedScheme scheme)

end Execution

/-- In a run of playbooks that a valid bundle offers, every credential that is asked for is
known, acquired and placed, at any depth. -/
theorem valid_credentials_usable {bundle : Bundle} (valid : bundle.validate = .ok ())
    (transport : Transport) (policy : FailurePolicy) {playbooks : List Playbook}
    (offers : bundle.Offers playbooks) (seed : ScopeStack) :
    CredentialsUsable ⟨bundle, transport, policy⟩ playbooks seed := by
  have checked := Bundle.checked_of_validate valid
  have stageProvides : ∀ session stage,
      Reaches ⟨bundle, transport, policy⟩ playbooks seed ⟨session, .stage stage⟩ →
      ∀ resolved, bundle.resolve stage = .ok resolved →
        ∀ entry ∈ resolved.content.auth, bundle.Provides entry := by
    intro session stage reached resolved found
    exact checked.provides (reached.canComeUp.covers offers) found
  have entryProvides : ∀ session entry,
      Reaches ⟨bundle, transport, policy⟩ playbooks seed ⟨session, .entry entry⟩ →
        bundle.Provides entry := by
    intro session entry reached
    obtain ⟨stage, resolved, can, found, asked⟩ := reached.canComeUp
    exact checked.provides (can.covers offers) found entry asked
  constructor
  case met =>
    intro session entry reached
    obtain ⟨requirement, met, -⟩ := entryProvides session entry reached
    exact ⟨requirement, met⟩
  case acquired =>
    intro session entry reached depth result after ran
    obtain ⟨acquisition, done, -⟩ :=
      acquireWithin_of_provides (entryProvides session entry reached) ran
    exact ⟨acquisition, done⟩
  case placed =>
    intro session stage reached resolved found depth authorization after ran
    obtain ⟨noError, placeable⟩ :=
      authorize_of_provides (stageProvides session stage reached resolved found) ran
    exact ⟨noError, fun acquired member =>
      PreparedRequest.applyCredential_of_placeable (placeable acquired member)⟩
  case told =>
    intro error told
    obtain ⟨session, stage, reached, unprepared⟩ := told.unprepared
    cases unprepared with
    | unresolved failure => exact .inl ⟨_, rfl⟩
    | credential found entries failure =>
        obtain ⟨noError, -⟩ :=
          authorize_of_provides (stageProvides session stage reached _ found) entries
        rw [noError] at failure
        cases failure
    | preparation found entries failure =>
        obtain ⟨-, placeable⟩ :=
          authorize_of_provides (stageProvides session stage reached _ found) entries
        rcases ofUrl_of_prepareRequest placeable failure with ⟨url, reason, rfl⟩ | ⟨scheme, rfl⟩
        · exact .inr (.inl ⟨url, reason, rfl⟩)
        · exact .inr (.inr ⟨scheme, rfl⟩)

/-- The request that signs in with a key, in its bundle. -/
theorem signInAlone_credentials_usable :
    (loginByReference ["key"]).validate = .ok () ∧
      (loginByReference ["key"]).Offers signInAlone ∧
      CredentialsUsable loginSetting signInAlone .empty := by
  have offers : (loginByReference ["key"]).Offers signInAlone := .inr ⟨.request "signIn", rfl⟩
  exact ⟨rfl, offers,
    valid_credentials_usable rfl loginSetting.transport loginSetting.policy offers .empty⟩

end RequestFlow
