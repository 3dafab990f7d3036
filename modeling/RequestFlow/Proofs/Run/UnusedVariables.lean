import Mathlib.Data.Option.Basic
import RequestFlow.Proofs.Acquisition.Termination
import RequestFlow.Proofs.Run.Progress
import RequestFlow.Proofs.Variable.Relevance

/-!
Contract: variables that no template names have no influence on a run.

Owns: the names that a run can use; the relation between two runs that started from
different seeds and did the same since; and the proof that this relation is kept by every
part of a run, if the seeds agree on the names in use.

The seeds may differ in their scopes, in the number of these, and in what shadows what.
Both runs push the same scopes on them, so that each lookup either stops in what was pushed
or goes on to seeds that agree.
-/

namespace RequestFlow

open Relation Execution

/-! ## Names in use -/

/-- A name occurs in a template that a run of some playbooks can use: in the variables or
in the request of a stage that can be run, or in a credential that can be asked for. -/
inductive Bundle.CanUse (bundle : Bundle) (playbooks : List Playbook) (name : String) :
    Prop where
  | environment {stage : Stage} {resolved : ResolvedStage}
      (runs : bundle.CanRun playbooks stage) (found : bundle.resolve stage = .ok resolved)
      (occurs : name ∈ stage.environment.tokens) : CanUse bundle playbooks name
  | request {stage : Stage} {resolved : ResolvedStage}
      (runs : bundle.CanRun playbooks stage) (found : bundle.resolve stage = .ok resolved)
      (occurs : name ∈ resolved.content.request.tokens) : CanUse bundle playbooks name
  | credential {entry : String} {requirement : Requirement}
      (asked : bundle.CanAsk playbooks entry)
      (met : bundle.requirement entry = .ok requirement)
      (occurs : name ∈ Template.tokensOf requirement.method.credential) :
      CanUse bundle playbooks name

/-- Two seeds give every name that a run of some playbooks can use the same value, or both
give it none. -/
def Bundle.AgreeOnUsed (bundle : Bundle) (playbooks : List Playbook)
    (first second : ScopeStack) : Prop :=
  ∀ name, bundle.CanUse playbooks name → first.lookup? name = second.lookup? name

/-! ## Sessions that are alike -/

/-- An event without the stack that it tells of. -/
def Event.withoutStack : Event → Event
  | .variablesSubstituted _ found missing => .variablesSubstituted .empty found missing
  | event => event

namespace Execution

/-- Two sessions over two seeds are the same but for the seeds: the same scopes were
pushed, the same requests were sent, and the same was told. -/
structure Alike (first second : ScopeStack) (one other : Session) : Prop where
  stack : ∃ added, one.stack = first.extend added ∧ other.stack = second.extend added
  sent : one.sent = other.sent
  told : one.events.map Event.withoutStack = other.events.map Event.withoutStack

/-- Two parts of runs answer the same, with sessions that are alike. -/
def AlikeResults {α : Type} (first second : ScopeStack) (one other : α × Session) : Prop :=
  one.1 = other.1 ∧ Alike first second one.2 other.2

theorem rel_bind {α β γ δ : Type} {related : α → β → Prop} {after : γ → δ → Prop}
    {one : Option α} {other : Option β} {next : α → Option γ} {otherNext : β → Option δ}
    (before : Option.Rel related one other)
    (step : ∀ left right, related left right →
      Option.Rel after (next left) (otherNext right)) :
    Option.Rel after (one.bind next) (other.bind otherNext) := by
  cases before with
  | none => exact .none
  | some same => exact step _ _ same

/-- What follows upon two parts that answer the same has to be shown for one answer only. -/
theorem alike_bind {α γ δ : Type} {first second : ScopeStack} {after : γ → δ → Prop}
    {one other : Option (α × Session)} {next : α × Session → Option γ}
    {otherNext : α × Session → Option δ}
    (before : Option.Rel (AlikeResults first second) one other)
    (step : ∀ answer session otherSession, Alike first second session otherSession →
      Option.Rel after (next (answer, session)) (otherNext (answer, otherSession))) :
    Option.Rel after (one.bind next) (other.bind otherNext) := by
  refine rel_bind before ?_
  rintro ⟨answer, session⟩ ⟨_, otherSession⟩ ⟨rfl, alike⟩
  exact step answer session otherSession alike

namespace Alike

variable {first second : ScopeStack} {one other : Session}

theorem start (first second : ScopeStack) :
    Alike first second (.start first) (.start second) := by
  refine ⟨⟨[], ?_, ?_⟩, rfl, rfl⟩ <;>
    simp [Session.start, ScopeStack.extend]

section Steps

variable (alike : Alike first second one other)

include alike

theorem tell (event : Event) : Alike first second (one.tell event) (other.tell event) := by
  refine ⟨alike.stack, alike.sent, ?_⟩
  simp only [Session.tell, List.map_append, alike.told]

/-- The stacks that are told of may differ. -/
theorem tellSubstituted (stack otherStack : ScopeStack) (found missing : List String) :
    Alike first second (one.tell (.variablesSubstituted stack found missing))
      (other.tell (.variablesSubstituted otherStack found missing)) := by
  refine ⟨alike.stack, alike.sent, ?_⟩
  simp only [Session.tell, List.map_append, alike.told, List.map_cons, Event.withoutStack]

theorem tellAll (events : List Event) :
    Alike first second (one.tellAll events) (other.tellAll events) := by
  refine ⟨alike.stack, alike.sent, ?_⟩
  simp only [Session.tellAll, List.map_append, alike.told]

theorem extend (scopes : List Scope) :
    Alike first second (one.extend scopes) (other.extend scopes) := by
  obtain ⟨added, stack, otherStack⟩ := alike.stack
  refine ⟨⟨added ++ scopes, ?_, ?_⟩, alike.sent, alike.told⟩
  · simp only [Session.extend, stack, ScopeStack.extend, List.append_assoc]
  · simp only [Session.extend, otherStack, ScopeStack.extend, List.append_assoc]

theorem push (scope : Scope) : Alike first second (one.push scope) (other.push scope) :=
  alike.extend [scope]

theorem recordSent (request : HttpRequest) :
    Alike first second (one.recordSent request) (other.recordSent request) := by
  refine ⟨alike.stack, ?_, alike.told⟩
  simp only [Session.recordSent, alike.sent]

theorem resume {worked otherWorked : Session}
    (after : Alike first second worked otherWorked) :
    Alike first second (one.resume worked) (other.resume otherWorked) :=
  ⟨alike.stack, after.sent, after.told⟩

theorem adopt (result : Except AuthError Acquisition) :
    Alike first second (one.adopt result) (other.adopt result) := by
  cases result with
  | error error => exact alike
  | ok acquisition => exact alike.extend acquisition.scopes

/-- What was pushed since is the same, although the seeds may differ in size. -/
theorem since_eq {worked otherWorked : Session}
    (after : Alike first second worked otherWorked) :
    worked.stack.since one.stack.size = otherWorked.stack.since other.stack.size := by
  obtain ⟨added, stack, otherStack⟩ := alike.stack
  obtain ⟨more, later, otherLater⟩ := after.stack
  rw [stack, otherStack, later, otherLater]
  simp only [ScopeStack.since, ScopeStack.size, ScopeStack.extend, List.length_append,
    List.drop_append, List.drop_eq_nil_of_le (Nat.le_add_right _ _), Nat.add_sub_cancel_left]

theorem agreeOn {names : List String} (agree : first.AgreeOn second names) :
    one.stack.AgreeOn other.stack names := by
  obtain ⟨added, stack, otherStack⟩ := alike.stack
  rw [stack, otherStack]
  exact agree.extend added

end Steps

end Alike

/-! ## Requests -/

/-- A stage's request is the same with stacks that agree on the names in it. -/
theorem substituteStage_congr {one other : ScopeStack} {stage : Stage} {content : StageContent}
    (environment : one.AgreeOn other stage.environment.tokens)
    (request : one.AgreeOn other content.request.tokens) :
    (substituteStage one stage content).template = (substituteStage other stage content).template ∧
      (substituteStage one stage content).seen = (substituteStage other stage content).seen := by
  have sameValues := Substitution.values_congr environment .none
  simp only [substituteStage, sameValues]
  split
  · rw [Substitution.request_congr request]
    exact ⟨rfl, rfl⟩
  · rw [Substitution.request_congr (request.push _)]
    exact ⟨rfl, rfl⟩

section Requests

variable {first second : ScopeStack} {one other : Session}
  (alike : Alike first second one other)

include alike

theorem assign_alike (label : String) (content : StageContent) (exchange : Exchange) :
    Alike first second (assign label content exchange one)
      (assign label content exchange other) := by
  unfold assign
  refine Alike.tellAll ?_ _
  split
  · exact (alike.push _).tell _
  · exact alike

theorem exchange_alike (setting : Setting) (label : String) (content : StageContent)
    (template : RequestTemplate) (request : HttpRequest) :
    AlikeResults first second (exchange setting label content template request one)
      (exchange setting label content template request other) := by
  have sent := alike.recordSent request
  simp only [exchange, alike.sent]
  split
  · exact ⟨rfl, sent.tell _⟩
  · exact ⟨rfl, assign_alike (sent.tell _) _ _ _⟩

theorem runAuthorized_alike (setting : Setting) {stage : Stage} {resolved : ResolvedStage}
    (authorization : Authorization)
    (environment : first.AgreeOn second stage.environment.tokens)
    (request : first.AgreeOn second resolved.content.request.tokens) :
    AlikeResults first second (runAuthorized setting stage resolved authorization one)
      (runAuthorized setting stage resolved authorization other) := by
  have congruent := substituteStage_congr (alike.agreeOn environment) (alike.agreeOn request)
  unfold runAuthorized
  -- The requests were made with different stacks, so they are not equal as a whole.
  generalize substituteStage one.stack stage resolved.content = made at congruent ⊢
  generalize substituteStage other.stack stage resolved.content = otherMade at congruent ⊢
  obtain ⟨sameTemplate, sameSeen⟩ := congruent
  have substituted := (alike.tell (.requestStarted stage.target?)).tellSubstituted made.stack
    otherMade.stack made.seen.found made.seen.missing
  simp only [← sameTemplate, ← sameSeen]
  split
  · exact ⟨rfl, substituted.tell _⟩
  · split
    · exact ⟨rfl, substituted.tell _⟩
    · exact exchange_alike (substituted.tell _) _ _ _ _ _

end Requests

/-! ## Parts of runs -/

/-- An acquirer answers the same for an entry in sessions that are alike. -/
def Acquirer.Blind (acquirer : Acquirer) (first second : ScopeStack) (entry : String) : Prop :=
  ∀ one other, Alike first second one other →
    Option.Rel (AlikeResults first second) (acquirer entry one) (acquirer entry other)

section Parts

variable {setting : Setting} {playbooks : List Playbook} {first second : ScopeStack}
  {acquirer : Acquirer} {one other : Session}

theorem authorize_alike {entries : List String}
    (blind : ∀ entry ∈ entries, acquirer.Blind first second entry)
    (alike : Alike first second one other) :
    Option.Rel (AlikeResults first second) (authorize acquirer entries one)
      (authorize acquirer entries other) := by
  induction entries generalizing one other with
  | nil => exact .some ⟨rfl, alike⟩
  | cons entry rest inductionHypothesis =>
      obtain ⟨blindFirst, blindRest⟩ := List.forall_mem_cons.1 blind
      refine alike_bind (blindFirst _ _ (alike.tell _)) ?_
      intro result worked otherWorked acquired
      refine alike_bind (inductionHypothesis blindRest ((acquired.adopt result).tell _)) ?_
      intro more later otherLater authorized
      exact .some ⟨rfl, authorized⟩

variable (agree : setting.bundle.AgreeOnUsed playbooks first second)
  (blind : ∀ entry, setting.bundle.CanAsk playbooks entry → acquirer.Blind first second entry)

include agree blind

theorem runStage_alike {stage : Stage} (runs : setting.bundle.CanRun playbooks stage)
    (alike : Alike first second one other) :
    Option.Rel (AlikeResults first second) (runStage setting acquirer stage one)
      (runStage setting acquirer stage other) := by
  unfold runStage
  split
  · exact .some ⟨rfl, (alike.tell _).tell _⟩
  · next resolved found =>
    have blindEntries : ∀ entry ∈ resolved.content.auth, acquirer.Blind first second entry :=
      fun entry asked => blind entry ⟨stage, resolved, runs, found, asked⟩
    refine alike_bind (authorize_alike blindEntries alike) ?_
    intro authorization authorized otherAuthorized acquired
    exact .some (runAuthorized_alike acquired setting authorization
      (fun name occurs => agree name (.environment runs found occurs))
      (fun name occurs => agree name (.request runs found occurs)))

theorem runStages_alike {stages : List Stage}
    (runs : ∀ stage ∈ stages, setting.bundle.CanRun playbooks stage)
    (alike : Alike first second one other) :
    Option.Rel (AlikeResults first second) (runStages setting acquirer stages one)
      (runStages setting acquirer stages other) := by
  induction stages generalizing one other with
  | nil => exact .some ⟨rfl, alike⟩
  | cons stage rest inductionHypothesis =>
      obtain ⟨stageRuns, restRun⟩ := List.forall_mem_cons.1 runs
      refine alike_bind (runStage_alike agree blind stageRuns alike) ?_
      intro status between otherBetween ended
      simp only
      split
      · exact .some ⟨rfl, ended⟩
      · refine alike_bind (inductionHypothesis restRun ended) ?_
        intro later after otherAfter finished
        exact .some ⟨rfl, finished⟩

theorem runPlaybook_alike (name : String) {stages : List Stage}
    (runs : ∀ stage ∈ stages, setting.bundle.CanRun playbooks stage)
    (alike : Alike first second one other) :
    Option.Rel (AlikeResults first second) (runPlaybook setting acquirer name stages one)
      (runPlaybook setting acquirer name stages other) := by
  refine alike_bind (runStages_alike agree blind runs (alike.tell _)) ?_
  intro status ended otherEnded after
  cases status <;> exact .some ⟨rfl, after.tell _⟩

theorem runMethod_alike {requirement : Requirement}
    (runs : ∀ stage ∈ requirement.method.requests, setting.bundle.CanRun playbooks stage)
    (alike : Alike first second one other) :
    Option.Rel (Alike first second) (runMethod setting acquirer requirement one)
      (runMethod setting acquirer requirement other) := by
  unfold runMethod
  split
  · exact .some alike
  · rw [Option.map_eq_bind, Option.map_eq_bind]
    refine alike_bind (runPlaybook_alike agree blind _ runs alike) ?_
    exact fun _ _ _ ended => .some ended

theorem acquire_blind {entry : String} (asked : setting.bundle.CanAsk playbooks entry) :
    (acquire setting acquirer).Blind first second entry := by
  intro one other alike
  unfold acquire
  split
  · exact .some ⟨rfl, alike⟩
  · next requirement met =>
    obtain ⟨outer, resolved, outerRuns, found, among⟩ := asked
    have runs : ∀ stage ∈ requirement.method.requests,
        setting.bundle.CanRun playbooks stage :=
      fun stage member => .acquired outerRuns found among met member
    refine rel_bind (runMethod_alike agree blind runs alike) ?_
    intro worked otherWorked after
    have named : first.AgreeOn second (Template.tokensOf requirement.method.credential) :=
      fun name occurs =>
        agree name (.credential ⟨outer, resolved, outerRuns, found, among⟩ met occurs)
    have filled : fillCredential worked.stack requirement =
        fillCredential otherWorked.stack requirement := by
      simp only [fillCredential, Substitution.text_congr (after.agreeOn named)]
    rw [filled]
    -- The copies of the stacks are given up; what was pushed on them is part of the answer.
    have pushed := after.push (authScope (fillCredential otherWorked.stack requirement))
    refine .some ⟨?_, alike.resume pushed⟩
    simp only [alike.since_eq pushed]

end Parts

theorem acquireWithin_blind {setting : Setting} {playbooks : List Playbook}
    {first second : ScopeStack} (agree : setting.bundle.AgreeOnUsed playbooks first second)
    (depth : Nat) : ∀ entry, setting.bundle.CanAsk playbooks entry →
      (acquireWithin setting depth).Blind first second entry := by
  induction depth with
  | zero => exact fun _ _ _ _ _ => .none
  | succ depth inductionHypothesis =>
      exact fun _ asked => acquire_blind agree inductionHypothesis asked

theorem runPlaybooks_alike {setting : Setting} {given : List Playbook}
    {first second : ScopeStack} (agree : setting.bundle.AgreeOnUsed given first second)
    (depth : Nat) {playbooks : List Playbook}
    (runs : ∀ playbook ∈ playbooks, ∀ stage ∈ playbook.stages,
      setting.bundle.CanRun given stage)
    {one other : Session} (alike : Alike first second one other) :
    Option.Rel (AlikeResults first second) (runPlaybooks setting depth playbooks one)
      (runPlaybooks setting depth playbooks other) := by
  induction playbooks generalizing one other with
  | nil => exact .some ⟨rfl, alike⟩
  | cons playbook rest inductionHypothesis =>
      obtain ⟨firstRuns, restRun⟩ := List.forall_mem_cons.1 runs
      have blind := acquireWithin_blind agree depth
      refine alike_bind (runPlaybook_alike agree blind _ firstRuns alike) ?_
      intro status between otherBetween ended
      cases status with
      | completed =>
          refine alike_bind (inductionHypothesis restRun ended) ?_
          intro outcomes after otherAfter finished
          exact .some ⟨rfl, finished⟩
      | failed =>
          simp only
          split
          · exact .some ⟨rfl, ended⟩
          · refine alike_bind (inductionHypothesis restRun ended) ?_
            intro outcomes after otherAfter finished
            exact .some ⟨rfl, finished⟩

/-! ## Points of runs -/

/-- Two points of runs with the same parts next, in sessions that are alike. -/
def AlikePoints (first second : ScopeStack) (one other : Point) : Prop :=
  one.next = other.next ∧ Alike first second one.session other.session

theorem eq_some_of_rel {α β : Type} {related : α → β → Prop} {one : α} {other : Option β}
    (same : Option.Rel related (some one) other) :
    ∃ result, other = some result ∧ related one result := by
  cases same with
  | some holds => exact ⟨_, rfl, holds⟩

section Points

variable {setting : Setting} {given : List Playbook} {first second : ScopeStack}
  (agree : setting.bundle.AgreeOnUsed given first second)

include agree

theorem playbookEnds_alike {session other after : Session} {name : String}
    {stages : List Stage} {status : StageStatus}
    (runs : ∀ stage ∈ stages, setting.bundle.CanRun given stage)
    (alike : Alike first second session other)
    (ended : PlaybookEnds setting session name stages status after) :
    ∃ otherAfter, PlaybookEnds setting other name stages status otherAfter ∧
      Alike first second after otherAfter := by
  obtain ⟨depth, ran⟩ := ended
  have same := runPlaybook_alike agree (acquireWithin_blind agree depth) name runs alike
  rw [ran] at same
  obtain ⟨⟨_, otherAfter⟩, otherRan, rfl, finished⟩ := eq_some_of_rel same
  exact ⟨otherAfter, ⟨depth, otherRan⟩, finished⟩

theorem stageEnds_alike {session other after : Session} {stage : Stage}
    {status : StageStatus} (runs : setting.bundle.CanRun given stage)
    (alike : Alike first second session other)
    (ended : StageEnds setting session stage status after) :
    ∃ otherAfter, StageEnds setting other stage status otherAfter ∧
      Alike first second after otherAfter := by
  obtain ⟨depth, ran⟩ := ended
  have same := runStage_alike agree (acquireWithin_blind agree depth) runs alike
  rw [ran] at same
  obtain ⟨⟨_, otherAfter⟩, otherRan, rfl, finished⟩ := eq_some_of_rel same
  exact ⟨otherAfter, ⟨depth, otherRan⟩, finished⟩

theorem entryEnds_alike {session other after : Session} {entry : String}
    (asked : setting.bundle.CanAsk given entry) (alike : Alike first second session other)
    (ended : EntryEnds setting session entry after) :
    ∃ otherAfter, EntryEnds setting other entry otherAfter ∧
      Alike first second after otherAfter := by
  obtain ⟨depth, result, worked, ran, rfl⟩ := ended
  have same := acquireWithin_blind agree depth entry asked _ _ (alike.tell (.authStarted entry))
  rw [ran] at same
  obtain ⟨⟨_, otherWorked⟩, otherRan, rfl, finished⟩ := eq_some_of_rel same
  exact ⟨_, ⟨depth, result, otherWorked, otherRan, rfl⟩, (finished.adopt result).tell _⟩

/-- A step of one run is a step of the other one. -/
theorem Leads.alike {point next other : Point} (leads : Leads setting point next)
    (can : point.next.CanComeUp setting.bundle given)
    (alike : AlikePoints first second point other) :
    ∃ otherNext, Leads setting other otherNext ∧ AlikePoints first second next otherNext := by
  obtain ⟨session, task⟩ := other
  obtain ⟨rfl, sessions⟩ := alike
  cases leads with
  | playbook => exact ⟨_, .playbook, rfl, sessions.tell _⟩
  | afterPlaybook ended =>
      obtain ⟨after, otherEnded, finished⟩ :=
        playbookEnds_alike agree (can _ List.mem_cons_self) sessions ended
      exact ⟨_, .afterPlaybook otherEnded, rfl, finished⟩
  | stage => exact ⟨_, .stage, rfl, sessions⟩
  | afterStage ended =>
      obtain ⟨after, otherEnded, finished⟩ :=
        stageEnds_alike agree (can _ List.mem_cons_self) sessions ended
      exact ⟨_, .afterStage otherEnded, rfl, finished⟩
  | entries found => exact ⟨_, .entries found, rfl, sessions⟩
  | entry => exact ⟨_, .entry, rfl, sessions.tell _⟩
  | afterEntry ended =>
      obtain ⟨after, otherEnded, finished⟩ :=
        entryEnds_alike agree (can _ List.mem_cons_self) sessions ended
      exact ⟨_, .afterEntry otherEnded, rfl, finished⟩
  | method met staged => exact ⟨_, .method met staged, rfl, sessions.tell _⟩

/-- Every point of one run has a point of the other one that is alike. -/
theorem Reaches.alike {point : Point} (reached : Reaches setting given first point) :
    ∃ other, Reaches setting given second other ∧ AlikePoints first second point other := by
  induction reached with
  | refl => exact ⟨⟨.start second, .playbooks given⟩, .refl, rfl, Alike.start first second⟩
  | tail before leads inductionHypothesis =>
      obtain ⟨other, otherReached, alike⟩ := inductionHypothesis
      have can := Reaches.canComeUp before
      obtain ⟨otherNext, otherLeads, nextAlike⟩ := leads.alike agree can alike
      exact ⟨otherNext, otherReached.tail otherLeads, nextAlike⟩

end Points

end Execution

/-! ## Runs -/

/-- Two runs from two seeds did the same: they sent the same requests in the same order,
their playbooks ended in the same way, they pushed the same scopes, and they told the same
but for the stacks in it. -/
structure RunsAlike (first second : ScopeStack) (one other : Run) : Prop where
  sent : one.sent = other.sent
  playbooks : one.outcome.playbooks = other.outcome.playbooks
  pushed : ∃ added, one.outcome.stack = first.extend added ∧
    other.outcome.stack = second.extend added
  told : one.events.map Event.withoutStack = other.events.map Event.withoutStack

theorem Run.within_alike {setting : Setting} {playbooks : List Playbook}
    {first second : ScopeStack} (agree : setting.bundle.AgreeOnUsed playbooks first second)
    (depth : Nat) : Option.Rel (RunsAlike first second)
      (Run.within depth setting playbooks first)
      (Run.within depth setting playbooks second) := by
  have runs : ∀ playbook ∈ playbooks, ∀ stage ∈ playbook.stages,
      setting.bundle.CanRun playbooks stage :=
    fun playbook among stage member => .given among member
  refine alike_bind (runPlaybooks_alike agree depth runs (Alike.start first second)) ?_
  intro outcomes after otherAfter alike
  exact .some ⟨alike.sent, rfl, alike.stack, alike.told⟩

/-- Variables that a run cannot use have no influence on it. If two seeds agree on the names
that it can use, then either both runs end and do the same, or none of them ends; and also
on their way both come to the same points. -/
theorem Run.unused_variables_irrelevant {setting : Setting} {playbooks : List Playbook}
    {first second : ScopeStack}
    (agree : setting.bundle.AgreeOnUsed playbooks first second) :
    (∀ depth, Option.Rel (RunsAlike first second)
      (Run.within depth setting playbooks first)
      (Run.within depth setting playbooks second)) ∧
    ∀ point, Reaches setting playbooks first point →
      ∃ other, Reaches setting playbooks second other ∧
        AlikePoints first second point other :=
  ⟨Run.within_alike agree, fun _ reached => reached.alike agree⟩

/-! ## A request by id -/

/-- A stage with a request whose URL has one token. -/
def fetchStage : Stage :=
  .inline ⟨none, ⟨"GET", "http://host/\x7b\x7bid\x7d\x7d", .none, none⟩, [], none, ∅⟩ ∅

def fetchById : List Playbook := [⟨"Request", [fetchStage]⟩]

def fetchSetting : Setting := ⟨.empty, .constant (.ofStatus 200), .standard⟩

/-- A seed with the id, and a variable that is not used. -/
def plainSeed : ScopeStack :=
  ⟨[.plain "all" (Dict.ofList [("id", .string "7"), ("unused", .string "one")])]⟩

/-- A seed in which the id shadows another one, and the variable has another value. -/
def shadowingSeed : ScopeStack :=
  ⟨[.plain "more" (Dict.ofList [("unused", .null), ("id", .string "6")]),
    .plain "id" (Dict.ofList [("id", .string "7")])]⟩

private theorem canRun_fetchById {stage : Stage} (runs : Bundle.empty.CanRun fetchById stage) :
    stage = fetchStage := by
  cases runs with
  | given among member =>
      rw [List.mem_singleton.1 among] at member
      exact List.mem_singleton.1 member
  | acquired _ _ _ met _ => cases met

private theorem canUse_fetchById {name : String}
    (used : Bundle.empty.CanUse fetchById name) : name = "id" := by
  cases used with
  | environment runs _ occurs =>
      rw [canRun_fetchById runs] at occurs
      cases occurs
  | request runs found occurs =>
      rw [canRun_fetchById runs] at found
      cases found
      have tokens : (RequestTemplate.mk "GET" "http://host/\x7b\x7bid\x7d\x7d" .none none).tokens =
          ["id"] := by decide +kernel
      exact List.mem_singleton.1 (tokens ▸ occurs)
  | credential _ met _ => cases met

private theorem agree_fetchById :
    fetchSetting.bundle.AgreeOnUsed fetchById plainSeed shadowingSeed := by
  intro name used
  rw [canUse_fetchById used]
  rfl

private theorem acyclic_empty (name : String) : ¬ TransGen Bundle.empty.Needs name name := by
  intro cycle
  obtain ⟨needed, ⟨stage, ⟨credential, found, -⟩, -⟩, -⟩ := TransGen.head'_iff.1 cycle
  cases found

/-- The seeds agree on the id, so that the two runs do the same. -/
theorem fetchById_alike :
    fetchSetting.bundle.AgreeOnUsed fetchById plainSeed shadowingSeed ∧
      ∃ run other : Run,
        Run.within 1 fetchSetting fetchById plainSeed = some run ∧
        Run.within 1 fetchSetting fetchById shadowingSeed = some other ∧
        RunsAlike plainSeed shadowingSeed run other := by
  obtain ⟨run, ended⟩ := everyRunEnds_of_acyclic acyclic_empty fetchSetting.transport
    fetchSetting.policy fetchById plainSeed
  have within : Run.within 1 fetchSetting fetchById plainSeed = some run := ended 1 (by decide)
  have same := (Run.unused_variables_irrelevant agree_fetchById).1 1
  rw [within] at same
  obtain ⟨other, otherWithin, alike⟩ := eq_some_of_rel same
  exact ⟨agree_fetchById, run, other, within, otherWithin, alike⟩

end RequestFlow
