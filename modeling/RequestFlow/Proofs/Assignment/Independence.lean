import RequestFlow.Proofs.Dict
import RequestFlow.Proofs.Run.CredentialPointer

/-!
Contract: each rule of a list is applied on its own.

Owns: what a list of rules sets and reports, told rule by rule; the variables as a stage with
a response leaves them, at every depth of a run.

A rule that fails takes nothing back. What a variable holds in the end is the value of the last
rule that succeeds for it, whatever rules for it fail later.
-/

namespace RequestFlow

/-! ## Single rules -/

namespace AssignmentRule

variable (exchange : Exchange) (rule : AssignmentRule)

def succeeds : Bool := (rule.evaluate exchange).toBool

/-- A rule that succeeds, with its value. -/
def success? : Option (AssignmentRule × Json) :=
  (rule.evaluate exchange).toOption.map (rule, ·)

/-- The variable of a rule that succeeds, with its value. -/
def assignment? : Option (String × Json) :=
  (rule.success? exchange).map fun (rule, value) => (rule.name, value)

/-- The variable of a rule that fails, and the reason. -/
def failure? : Option (String × AssignmentError) :=
  match rule.evaluate exchange with
  | .ok _ => none
  | .error error => some (rule.name, error)

end AssignmentRule

/-- A variable has the value of the last rule that succeeds for it: such a rule stands in the
list, and those for the same variable behind it fail. -/
def SetsLast (exchange : Exchange) (rules : List AssignmentRule) (name : String)
    (value : Json) : Prop :=
  ∃ before rule after, rules = before ++ rule :: after ∧ rule.name = name ∧
    rule.evaluate exchange = .ok value ∧
    ∀ later ∈ after, later.name = name → ∃ error, later.evaluate exchange = .error error

/-- What is set and reported for an exchange, told rule by rule. -/
structure AppliesEach (exchange : Exchange) (rules : List AssignmentRule) (id : String)
    (scope : Option Scope) (errors : List (String × AssignmentError)) : Prop where
  /-- The rules that fail are reported, in their order and each time they occur. -/
  reported : errors = rules.filterMap (AssignmentRule.failure? exchange)
  /-- There is a scope just if some rule succeeds. -/
  isSome_iff : scope.isSome ↔ ∃ rule ∈ rules, ∃ value, rule.evaluate exchange = .ok value
  /-- The scope records the rules that succeed, in their order. -/
  recorded : ∀ made ∈ scope,
    made.id = id ∧ made.assignments = rules.filter (AssignmentRule.succeeds exchange)
  /-- The scope has the variables of these rules, and no others. -/
  names : ∀ made ∈ scope, ∀ name, name ∈ made.values.keys ↔
    ∃ rule ∈ rules.filter (AssignmentRule.succeeds exchange), rule.name = name
  /-- Each variable has the value of the last of these rules. -/
  values : ∀ made ∈ scope, ∀ name value, made.values.get? name = some value ↔
    SetsLast exchange rules name value

/-! ## Lists of rules -/

namespace Assigned

variable (exchange : Exchange) (rules : List AssignmentRule)

theorem ofRules_eq :
    ofRules exchange rules =
      ⟨rules.filterMap (AssignmentRule.success? exchange),
        rules.filterMap (AssignmentRule.failure? exchange)⟩ := by
  induction rules with
  | nil => rfl
  | cons rule rest inductionHypothesis =>
      rw [ofRules, inductionHypothesis, List.filterMap_cons, List.filterMap_cons,
        AssignmentRule.success?, AssignmentRule.failure?]
      cases rule.evaluate exchange <;> rfl

theorem rules_ofRules :
    (ofRules exchange rules).values.map Prod.fst =
      rules.filter (AssignmentRule.succeeds exchange) := by
  rw [ofRules_eq, List.map_filterMap, ← List.filterMap_eq_filter]
  congr 1
  funext rule
  rw [AssignmentRule.success?, Option.guard, AssignmentRule.succeeds]
  cases rule.evaluate exchange <;> rfl

theorem assignments_ofRules :
    ((ofRules exchange rules).values.map fun (rule, value) => (rule.name, value)) =
      rules.filterMap (AssignmentRule.assignment? exchange) := by
  rw [ofRules_eq, List.map_filterMap]
  rfl

end Assigned

section SetsLast

variable {exchange : Exchange} {rules : List AssignmentRule} {name : String} {value : Json}

theorem AssignmentRule.assignment?_eq_some_iff {rule : AssignmentRule} :
    rule.assignment? exchange = some (name, value) ↔
      rule.name = name ∧ rule.evaluate exchange = .ok value := by
  rw [assignment?, success?]
  cases rule.evaluate exchange <;> simp [Except.toOption]

/-- Nothing is set for a variable just if all of its rules fail. -/
theorem notMem_assignments_iff :
    name ∉ (rules.filterMap (AssignmentRule.assignment? exchange)).map Prod.fst ↔
      ∀ rule ∈ rules, rule.name = name → ∃ error, rule.evaluate exchange = .error error := by
  constructor
  · intro absent rule member named
    cases evaluated : rule.evaluate exchange with
    | error error => exact ⟨error, rfl⟩
    | ok value =>
        have set := AssignmentRule.assignment?_eq_some_iff.2 ⟨named, evaluated⟩
        exact absurd (List.mem_map_of_mem (List.mem_filterMap.2 ⟨rule, member, set⟩)) absent
  · intro fails member
    obtain ⟨⟨other, value⟩, among, rfl⟩ := List.mem_map.1 member
    obtain ⟨rule, inRules, set⟩ := List.mem_filterMap.1 among
    obtain ⟨named, evaluated⟩ := AssignmentRule.assignment?_eq_some_iff.1 set
    obtain ⟨error, failed⟩ := fails rule inRules named
    rw [evaluated] at failed
    cases failed

/-- The last rule that succeeds for a variable decides on its value. -/
theorem get?_assignments_eq_some_iff :
    (Dict.ofList (rules.filterMap (AssignmentRule.assignment? exchange))).get? name =
        some value ↔
      SetsLast exchange rules name value := by
  rw [Dict.get?_ofList_eq_some_iff]
  constructor
  · rintro ⟨before, after, split, absent⟩
    obtain ⟨first, others, rfl, -, rest⟩ := List.filterMap_eq_append_iff.1 split
    obtain ⟨silent, rule, later, rfl, -, set, rfl⟩ := List.filterMap_eq_cons_iff.1 rest
    obtain ⟨named, evaluated⟩ := AssignmentRule.assignment?_eq_some_iff.1 set
    exact ⟨first ++ silent, rule, later, (List.append_assoc ..).symm, named, evaluated,
      notMem_assignments_iff.1 absent⟩
  · rintro ⟨before, rule, after, rfl, named, evaluated, fails⟩
    have set := AssignmentRule.assignment?_eq_some_iff.2 ⟨named, evaluated⟩
    refine ⟨before.filterMap (AssignmentRule.assignment? exchange),
      after.filterMap (AssignmentRule.assignment? exchange), ?_,
      notMem_assignments_iff.2 fails⟩
    rw [List.filterMap_append, List.filterMap_cons_some set]

end SetsLast

theorem AssignmentRule.succeeds_iff {exchange : Exchange} {rule : AssignmentRule} :
    rule.succeeds exchange = true ↔ ∃ value, rule.evaluate exchange = .ok value := by
  rw [succeeds]
  cases rule.evaluate exchange <;> simp [Except.toBool]

theorem Assigned.scope?_eq_some_iff {assigned : Assigned} {id : String} {scope : Scope} :
    assigned.scope? id = some scope ↔
      assigned.values ≠ [] ∧ scope = ⟨id,
        Dict.ofList (assigned.values.map fun (rule, value) => (rule.name, value)),
        assigned.values.map Prod.fst⟩ := by
  unfold scope?
  cases assigned.values <;> simp [eq_comm]

theorem Assigned.scope?_isSome_iff {assigned : Assigned} {id : String} :
    (assigned.scope? id).isSome ↔ assigned.values.map Prod.fst ≠ [] := by
  unfold scope?
  cases assigned.values <;> simp

theorem Assigned.appliesEach_ofRules (exchange : Exchange) (rules : List AssignmentRule)
    (id : String) :
    AppliesEach exchange rules id ((Assigned.ofRules exchange rules).scope? id)
      (Assigned.ofRules exchange rules).errors := by
  have recorded := rules_ofRules exchange rules
  have assignments := assignments_ofRules exchange rules
  constructor
  case reported => rw [ofRules_eq]
  case isSome_iff =>
    rw [scope?_isSome_iff, recorded, Ne, List.filter_eq_nil_iff]
    simp only [AssignmentRule.succeeds_iff, not_forall, not_not, exists_prop]
  all_goals
    intro made isScope
    obtain ⟨-, rfl⟩ := scope?_eq_some_iff.1 isScope
  case recorded => exact ⟨rfl, recorded⟩
  case names =>
    intro name
    rw [Dict.mem_keys_ofList, ← recorded]
    simp
  case values =>
    intro name value
    rw [assignments]
    exact get?_assignments_eq_some_iff

/-- The scope has a value for a variable just if some rule for it succeeds. -/
theorem AppliesEach.get?_eq_some_iff {exchange : Exchange} {rules : List AssignmentRule}
    {id : String} {scope : Option Scope} {errors : List (String × AssignmentError)}
    (each : AppliesEach exchange rules id scope errors) {name : String} {value : Json} :
    (scope.bind fun made => made.values.get? name) = some value ↔
      SetsLast exchange rules name value := by
  cases made : scope with
  | some scope => exact each.values scope made name value
  | none =>
      refine ⟨nofun, ?_⟩
      rintro ⟨before, rule, after, rfl, -, evaluated, -⟩
      have isSome := each.isSome_iff.2 ⟨rule, by simp, value, evaluated⟩
      rw [made] at isSome
      cases isSome

namespace Execution

/-! ## Stages with a response -/

/-- A stage gets the response of its transport, and sets and reports what the rules for the
status give. -/
theorem attempt_eq_answered {setting : Setting} {sent : List HttpRequest} {stage : Stage}
    {resolved : ResolvedStage} {authorization : Authorization} {template : RequestTemplate}
    {ready : HttpRequest} {operationId : Option String} {response : HttpResponse}
    {scope : Option Scope} {failures : List AssignmentFailure}
    (made : attempt setting sent stage resolved authorization template =
      .answered ready operationId response scope failures) :
    setting.transport sent ready = .response response ∧
      let assigned := Assigned.ofRules ⟨template, ready, response⟩
        (rulesFor resolved.content response.status)
      assigned.scope? stage.label = scope ∧
        failures = assigned.errors.map fun (name, error) => ⟨name, error.message⟩ := by
  unfold attempt at made
  cases authorized : authorization.error with
  | some error => simp [authorized] at made
  | none =>
      simp only [authorized] at made
      cases prepared : prepareRequest template authorization.credentials with
      | error error => simp [prepared] at made
      | ok request =>
          simp only [prepared] at made
          cases reply : setting.transport sent request with
          | failure error => simp [reply] at made
          | response received =>
              simp only [reply] at made
              cases made
              exact ⟨reply, rfl, rfl⟩

/-- After a stage with a response, each variable that the rules for the status set has the
value of the last one that succeeds for it. Any other variable has the value that it had when
the stage sent its request. -/
def StageTrace.SetsVariables (setting : Setting) (session : Session) (trace : StageTrace) :
    Prop :=
  ∀ stage auth request ready operationId response scope failures,
    trace = .resolved stage auth request
        (.answered ready operationId response scope failures) →
      ∃ resolved errors, setting.bundle.resolve stage = .ok resolved ∧
        setting.transport (session.perform (authActs auth)).sent ready = .response response ∧
        failures = errors.map (fun (name, error) => ⟨name, error.message⟩) ∧
        let exchange : Exchange := ⟨request.template, ready, response⟩
        let rules := rulesFor resolved.content response.status
        let after := (session.perform trace.acts).stack
        AppliesEach exchange rules stage.label scope errors ∧
          (∀ name value, SetsLast exchange rules name value → after.lookup? name = some value) ∧
          ∀ name, (∀ value, ¬ SetsLast exchange rules name value) →
            after.lookup? name = (session.perform (authActs auth)).stack.lookup? name

section StageRuns

variable {setting : Setting} {session : Session}

theorem lookup?_resolved (stage : Stage) (auth : List AuthTrace) (request : StageRequest)
    (made : Attempt) (name : String) :
    (session.perform (StageTrace.resolved stage auth request made).acts).stack.lookup? name =
      (made.assigned?.bind fun scope => scope.values.get? name).or
        ((session.perform (authActs auth)).stack.lookup? name) := by
  have scopes := scopes_resolved session stage auth request made
  cases assigned : made.assigned? with
  | none =>
      rw [assigned, Option.toList_none, List.append_nil] at scopes
      rw [ScopeStack.lookup?, ScopeStack.lookupScope?, scopes]
      rfl
  | some scope =>
      rw [assigned, Option.toList_some] at scopes
      have pushed : (session.perform (StageTrace.resolved stage auth request made).acts).stack =
          (session.perform (authActs auth)).stack.push scope :=
        congrArg ScopeStack.mk scopes
      rw [pushed, ScopeStack.lookup?_push, Option.bind_some]

theorem StageRuns.setsVariables {stage : Stage} {trace : StageTrace}
    (runs : StageRuns setting session stage trace) : trace.SetsVariables setting session := by
  rintro stage auth request ready operationId response scope failures rfl
  generalize isMade : Attempt.answered ready operationId response scope failures = made at runs
  cases runs with
  | @resolved _ authorized _ resolved auth authorization request found entries after filled =>
      subst after
      obtain ⟨replied, isScope, told⟩ := attempt_eq_answered isMade.symm
      have each := Assigned.appliesEach_ofRules ⟨request.template, ready, response⟩
        (rulesFor resolved.content response.status) stage.label
      rw [isScope] at each
      refine ⟨resolved, _, found, replied, told, each, fun name value sets => ?_,
        fun name unset => ?_⟩
      · have here := each.get?_eq_some_iff.2 sets
        rw [lookup?_resolved, ← isMade, Attempt.assigned?, here, Option.some_or]
      · have nowhere : (scope.bind fun made => made.values.get? name) = none :=
          Option.eq_none_iff_forall_ne_some.2 fun value found =>
            unset value (each.get?_eq_some_iff.1 found)
        rw [lookup?_resolved, ← isMade, Attempt.assigned?, nowhere, Option.none_or]

end StageRuns

end Execution

open Execution

/-- The rules of a list are applied one by one: each one that succeeds is recorded and each one
that fails is reported, in the order of the list, and a variable has the value of the last rule
that succeeds for it. So it is found on the stack right after every stage with a response, at
every depth of a run, from whatever session the stage is run. -/
theorem rules_apply_apart (setting : Setting) :
    (∀ exchange rules id,
      AppliesEach exchange rules id ((Assigned.ofRules exchange rules).scope? id)
        (Assigned.ofRules exchange rules).errors) ∧
    (∀ depth playbooks seed run, Run.within depth setting playbooks seed = some run →
      ∃ traces, PlaybooksRun setting (.start seed) playbooks traces run.outcome.playbooks ∧
        run.events = traces.flatMap PlaybookTrace.events ∧
        ∀ here ∈ runStagesFrom (.start seed) traces, here.2.SetsVariables setting here.1) ∧
    ∀ depth session stage status after,
      runStage setting (acquireWithin setting depth) stage session = some (status, after) →
        ∃ trace, StageRuns setting session stage trace ∧ status = trace.status ∧
          after = session.perform trace.acts ∧ trace.SetsVariables setting session := by
  refine ⟨Assigned.appliesEach_ofRules, ?_, ?_⟩
  · intro depth playbooks seed run ended
    obtain ⟨traces, runs, -, events⟩ := Run.traced ended
    exact ⟨traces, runs, events, fun here member => (runs.eachStage here member).setsVariables⟩
  · intro depth session stage status after ran
    obtain ⟨trace, runs, ended, performed⟩ :=
      runStage_traced (acquireWithin_traced setting depth) ran
    exact ⟨trace, runs, ended, performed, runs.setsVariables⟩

/-! ## A variable with two rules -/

/-- A server that answers every request with a status and no headers. -/
def createdSetting : Setting := ⟨.empty, .constant (.ofStatus 201), .standard⟩

/-- The first rule for the variable succeeds, the second one fails. -/
def createdStage : Stage :=
  .inline ⟨none, ⟨"GET", "http://[::1]/", .none, none⟩, [], none,
    Dict.ofList [("default", ⟨[⟨"code", .response, .statusCode, none⟩,
      ⟨"code", .response, .header, some "X-Code"⟩]⟩)]⟩ ∅

/-- The variable keeps the status when the header is not found. -/
theorem createdStage_sets_code :
    ∃ after, runStage createdSetting (acquireWithin createdSetting 0) createdStage
        (.start .empty) = some (.completed, after) ∧
      after.stack.lookup? "code" = some (Json.ofNat 201) := by
  obtain ⟨⟨status, after⟩, ran, ended⟩ := Option.map_eq_some_iff.1
    (show (runStage createdSetting (acquireWithin createdSetting 0) createdStage
      (.start .empty)).map Prod.fst = some .completed by decide +kernel)
  obtain rfl : status = .completed := ended
  obtain ⟨trace, runs, completed, rfl, sets⟩ :=
    (rules_apply_apart createdSetting).2.2 0 (.start .empty) createdStage .completed after ran
  refine ⟨_, ran, ?_⟩
  cases runs with
  | unresolved failure => cases completed
  | @resolved _ authorized _ resolved auth authorization request found entries after filled =>
      generalize attempt _ _ _ _ _ _ = made at *
      cases made with
      | unprepared error => cases completed
      | unanswered ready operationId error => cases completed
      | answered ready operationId response scope failures =>
          obtain ⟨resolved, errors, found, replied, -, -, set, -⟩ :=
            sets _ _ _ _ _ _ _ _ rfl
          cases found
          cases replied
          refine set "code" (Json.ofNat 201) ⟨[], _, _, rfl, rfl, rfl, ?_⟩
          exact List.forall_mem_singleton.2 fun _ => ⟨_, rfl⟩

end RequestFlow
