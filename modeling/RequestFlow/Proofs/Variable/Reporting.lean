import Mathlib.Data.List.Induction
import Mathlib.Data.List.Nodup
import RequestFlow.Proofs.Template.Segmentation
import RequestFlow.Proofs.Variable.Relevance

/-!
Contract: a substitution reports the tokens that occur.

Owns: the order and the repetitions of recorded names; the names that each substitution
records, which are the token names of its input in their order; and what its two lists are in
terms of these names and of the stack alone.

The lists are handed on from one text to the next, so each fact is about any names recorded
before. Only the main statement starts with none.
-/

namespace RequestFlow

namespace SeenTokens

/-! ## Names without repetition -/

theorem mem_addName {names : List String} {added name : String} :
    name ∈ addName names added ↔ name ∈ names ∨ name = added := by
  unfold addName
  split
  case isTrue known =>
    constructor
    · exact .inl
    · rintro (old | rfl)
      · exact old
      · simpa using known
  case isFalse unknown => simp

theorem mem_addNames {names more : List String} {name : String} :
    name ∈ addNames names more ↔ name ∈ names ∨ name ∈ more := by
  unfold addNames
  induction more generalizing names with
  | nil => simp
  | cons first rest inductionHypothesis =>
      rw [List.foldl_cons, inductionHypothesis, mem_addName, List.mem_cons, or_assoc]

theorem nodup_addName {names : List String} (distinct : names.Nodup) (added : String) :
    (addName names added).Nodup := by
  unfold addName
  split
  case isTrue known => exact distinct
  case isFalse unknown =>
    have fresh : added ∉ names := by simpa using unknown
    rw [← List.concat_eq_append]
    exact (List.nodup_concat names added).2 ⟨fresh, distinct⟩

theorem nodup_addNames {names : List String} (distinct : names.Nodup) (more : List String) :
    (addNames names more).Nodup := by
  unfold addNames
  induction more generalizing names with
  | nil => exact distinct
  | cons first rest inductionHypothesis =>
      exact inductionHypothesis (nodup_addName distinct first)

/-- Of several equal names the first one stays. -/
theorem addNames_nil (names : List String) : addNames [] names = names.eraseDups := by
  induction names using List.reverseRecOn with
  | nil => rfl
  | append_singleton names last inductionHypothesis =>
      have split : addNames [] (names ++ [last]) = addName (addNames [] names) last :=
        List.foldl_append
      rw [split, inductionHypothesis, List.eraseDups_append, addName]
      by_cases known : last ∈ names
      · rw [if_pos (by simpa using known)]
        simp [List.removeAll, known]
      · rw [if_neg (by simpa using known)]
        simp [List.removeAll, known, List.eraseDups_cons]

/-! ## Recording -/

/-- Records a name by whether a stack has a value for it. -/
def record (stack : ScopeStack) (seen : SeenTokens) (name : String) : SeenTokens :=
  if (stack.lookup? name).isSome then seen.recordFound name else seen.recordMissing name

def recordAll (stack : ScopeStack) (seen : SeenTokens) (names : List String) : SeenTokens :=
  names.foldl (record stack) seen

theorem recordAll_append (stack : ScopeStack) (seen : SeenTokens) (first second : List String) :
    recordAll stack seen (first ++ second) =
      recordAll stack (recordAll stack seen first) second :=
  List.foldl_append

theorem recordAll_cons (stack : ScopeStack) (seen : SeenTokens) (name : String)
    (rest : List String) :
    recordAll stack seen (name :: rest) = recordAll stack (record stack seen name) rest := rfl

theorem recordAll_singleton (stack : ScopeStack) (seen : SeenTokens) (name : String) :
    recordAll stack seen [name] = record stack seen name := rfl

section RecordAll

variable (stack : ScopeStack) (seen : SeenTokens) (names : List String)

theorem found_recordAll : (recordAll stack seen names).found =
    addNames seen.found (names.filter fun name => (stack.lookup? name).isSome) := by
  induction names generalizing seen with
  | nil => rfl
  | cons name rest inductionHypothesis =>
      rw [recordAll_cons, inductionHypothesis, record]
      cases known : (stack.lookup? name).isSome <;>
        simp [known, recordFound, recordMissing, addNames]

theorem missing_recordAll : (recordAll stack seen names).missing =
    addNames seen.missing (names.filter fun name => (stack.lookup? name).isNone) := by
  induction names generalizing seen with
  | nil => rfl
  | cons name rest inductionHypothesis =>
      rw [recordAll_cons, inductionHypothesis, record]
      cases value : stack.lookup? name <;>
        simp [value, recordFound, recordMissing, addNames]

end RecordAll

/-- Two lists report on names: those that a stack has a value for, and those that it has none
for. Each list has a name once, in the order of first occurrence, no name is in both, and
together they have all names. -/
structure Reports (stack : ScopeStack) (names : List String) (seen : SeenTokens) : Prop where
  found : seen.found = (names.filter fun name => (stack.lookup? name).isSome).eraseDups
  missing : seen.missing = (names.filter fun name => (stack.lookup? name).isNone).eraseDups
  foundOnce : seen.found.Nodup
  missingOnce : seen.missing.Nodup
  disjoint : seen.found.Disjoint seen.missing
  covers : ∀ name, name ∈ names ↔ name ∈ seen.found ∨ name ∈ seen.missing

section Reports

variable {stack : ScopeStack} {names : List String} {name : String}

theorem mem_found_recordAll_none :
    name ∈ (recordAll stack none names).found ↔
      name ∈ names ∧ (stack.lookup? name).isSome := by
  rw [found_recordAll, mem_addNames, List.mem_filter]
  simp [none]

theorem mem_missing_recordAll_none :
    name ∈ (recordAll stack none names).missing ↔
      name ∈ names ∧ stack.lookup? name = Option.none := by
  rw [missing_recordAll, mem_addNames, List.mem_filter]
  simp [none]

theorem reports_recordAll (stack : ScopeStack) (names : List String) :
    (recordAll stack none names).Reports stack names where
  found := (found_recordAll ..).trans (addNames_nil _)
  missing := (missing_recordAll ..).trans (addNames_nil _)
  foundOnce := by
    rw [found_recordAll]
    exact nodup_addNames .nil _
  missingOnce := by
    rw [missing_recordAll]
    exact nodup_addNames .nil _
  disjoint := by
    intro name inFound inMissing
    have known := (mem_found_recordAll_none.1 inFound).2
    rw [(mem_missing_recordAll_none.1 inMissing).2] at known
    cases known
  covers := by
    intro name
    rw [mem_found_recordAll_none, mem_missing_recordAll_none]
    cases value : stack.lookup? name <;> simp

end Reports

end SeenTokens

/-! ## What substitutions record

A substitution in a JSON value and the list of its token names are recursions over the same
three types, so one lemma for each of the three goes with them. -/

namespace Substitution

open SeenTokens

variable (stack : ScopeStack) (seen : SeenTokens)

theorem segment_seen (part : Segment) :
    (segment stack seen part).seen = recordAll stack seen (Template.tokenName? part).toList := by
  cases part with
  | literal text => rfl
  | token name source =>
      rw [segment, Template.tokenName?, Option.toList, recordAll_singleton, record]
      cases stack.lookup? name <;> rfl

theorem segments_seen (parts : List Segment) :
    (segments stack seen parts).seen = recordAll stack seen (Template.tokens parts) := by
  induction parts generalizing seen with
  | nil => rfl
  | cons part rest inductionHypothesis =>
      have names : Template.tokens (part :: rest) =
          (Template.tokenName? part).toList ++ Template.tokens rest := by
        cases part <;> rfl
      rw [segments, inductionHypothesis, segment_seen, names, recordAll_append]

theorem text_seen (input : String) :
    (text stack seen input).seen = recordAll stack seen (Template.tokensOf input) :=
  segments_seen stack seen (Template.parse input)

/-- A text that is one token is not split further, and its name is recorded all the same. -/
theorem jsonString_seen (input : String) :
    (jsonString stack seen input).seen = recordAll stack seen (Template.tokensOf input) := by
  unfold jsonString
  cases single : Template.single? (Template.parse input) with
  | none =>
      simp only [single]
      exact segments_seen stack seen _
  | some name =>
      simp only [single]
      have names : Template.tokensOf input = [name] :=
        Template.tokens_of_isToken (Template.single?_parse_iff.1 single)
      rw [names, recordAll_singleton, record]
      cases stack.lookup? name <;> rfl

mutual

theorem json_seen (stack : ScopeStack) : (seen : SeenTokens) → (value : Json) →
    (json stack seen value).seen = recordAll stack seen value.tokens
  | _, .null | _, .bool _ | _, .number _ => by
      rw [json, Json.tokens]
      rfl
  | seen, .string input => by
      rw [json, Json.tokens]
      exact jsonString_seen stack seen input
  | seen, .array items => by
      rw [json, Json.tokens]
      exact jsonItems_seen stack seen items
  | seen, .object members => by
      rw [json, Json.tokens]
      exact jsonMembers_seen stack seen members

theorem jsonItems_seen (stack : ScopeStack) : (seen : SeenTokens) → (items : List Json) →
    (jsonItems stack seen items).seen = recordAll stack seen (Json.tokensOfItems items)
  | _, [] => by
      rw [jsonItems, Json.tokensOfItems]
      rfl
  | seen, item :: rest => by
      rw [jsonItems, Json.tokensOfItems, recordAll_append, ← json_seen stack seen item]
      exact jsonItems_seen stack _ rest

theorem jsonMembers_seen (stack : ScopeStack) : (seen : SeenTokens) →
    (members : List (String × Json)) →
    (jsonMembers stack seen members).seen = recordAll stack seen (Json.tokensOfMembers members)
  | _, [] => by
      rw [jsonMembers, Json.tokensOfMembers]
      rfl
  | seen, (key, value) :: rest => by
      rw [jsonMembers, Json.tokensOfMembers, recordAll_append, ← json_seen stack seen value]
      exact jsonMembers_seen stack _ rest

end

theorem values_seen (dict : Dict Json) :
    (values stack seen dict).seen = recordAll stack seen dict.tokens :=
  jsonMembers_seen stack seen dict.entries

theorem body_seen (content : Option RequestBody) :
    (body stack seen content).seen =
      recordAll stack seen ((content.map RequestBody.tokens).getD []) := by
  cases content with
  | none => rfl
  | some content => exact json_seen stack seen content.value

theorem request_seen (template : RequestTemplate) :
    (request stack seen template).seen = recordAll stack seen template.tokens := by
  simp only [request, RequestTemplate.tokens, recordAll_append, text_seen, values_seen, body_seen]

/-- The names that a substitution reports are the token names of its input: those that the
stack has a value for as found, the others as missing. In a request the URL comes first, then
the parameters of the path, the query, the headers and the cookies, then the body. -/
theorem reports_tokens (stack : ScopeStack) :
    (∀ value : Json, (json stack .none value).seen.Reports stack value.tokens) ∧
      (∀ template : RequestTemplate,
        (request stack .none template).seen.Reports stack
          (Template.tokensOf template.url ++ template.parameters.path.tokens ++
            template.parameters.query.tokens ++ template.parameters.header.tokens ++
            template.parameters.cookie.tokens ++
            (template.body.map RequestBody.tokens).getD [])) ∧
      (∀ dict : Dict Json, (values stack .none dict).seen.Reports stack dict.tokens) ∧
      ∀ input, (text stack .none input).seen.Reports stack (Template.tokensOf input) := by
  refine ⟨fun value => ?_, fun template => ?_, fun dict => ?_, fun input => ?_⟩
  · rw [json_seen]
    exact reports_recordAll stack _
  · rw [request_seen]
    exact reports_recordAll stack _
  · rw [values_seen]
    exact reports_recordAll stack _
  · rw [text_seen]
    exact reports_recordAll stack _

end Substitution

end RequestFlow
