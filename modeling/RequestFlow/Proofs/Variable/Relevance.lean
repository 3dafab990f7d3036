import RequestFlow.Variable.Substitution

/-!
Contract: a substitution depends on no variables but those that its tokens name.

Owns: the token names of request templates and dictionaries; the agreement of stacks on
names, which pushing the same scopes on both keeps; and the equality of substitutions with
stacks that agree on the names at hand.
-/

namespace RequestFlow

/-! ## Token names -/

namespace Template

/-- The token names of a text. -/
def tokensOf (text : String) : List String := tokens (parse text)

end Template

/-- The token names in the values of a dictionary. -/
def Dict.tokens (dict : Dict Json) : List String := Json.tokensOfMembers dict.entries

def RequestBody.tokens (body : RequestBody) : List String := body.value.tokens

/-- The token names of a request: those of its URL, its parameters and its body. -/
def RequestTemplate.tokens (template : RequestTemplate) : List String :=
  Template.tokensOf template.url ++ template.parameters.path.tokens ++
    template.parameters.query.tokens ++ template.parameters.header.tokens ++
    template.parameters.cookie.tokens ++ (template.body.map RequestBody.tokens).getD []

/-! ## Agreement -/

namespace ScopeStack

/-- Two stacks give a variable the same value, or both give it none. -/
def AgreeOn (first second : ScopeStack) (names : List String) : Prop :=
  ∀ name ∈ names, first.lookup? name = second.lookup? name

theorem lookup?_extend (stack : ScopeStack) (scopes : List Scope) (name : String) :
    (stack.extend scopes).lookup? name =
      ((⟨scopes⟩ : ScopeStack).lookup? name).or (stack.lookup? name) := by
  simp only [lookup?, lookupScope?, extend, List.reverse_append, List.findSome?_append,
    Option.map_or]

/-- The scope pushed last decides on its own variables. -/
theorem lookup?_push (stack : ScopeStack) (scope : Scope) (name : String) :
    (stack.push scope).lookup? name =
      (scope.values.get? name).or (stack.lookup? name) := by
  rw [show stack.push scope = stack.extend [scope] from rfl, lookup?_extend]
  cases present : scope.values.get? name <;> simp [lookup?, lookupScope?, present]

namespace AgreeOn

variable {first second : ScopeStack} {names : List String}

theorem append_iff {left right : List String} :
    first.AgreeOn second (left ++ right) ↔
      first.AgreeOn second left ∧ first.AgreeOn second right :=
  List.forall_mem_append

/-- What is pushed on both stacks shadows the same variables. -/
theorem extend (agree : first.AgreeOn second names) (scopes : List Scope) :
    (first.extend scopes).AgreeOn (second.extend scopes) names := by
  intro name member
  rw [lookup?_extend, lookup?_extend, agree name member]

theorem push (agree : first.AgreeOn second names) (scope : Scope) :
    (first.push scope).AgreeOn (second.push scope) names :=
  agree.extend [scope]

end AgreeOn

end ScopeStack

/-! ## Substitution -/

namespace Substitution

variable {first second : ScopeStack}

theorem segment_congr {part : Segment}
    (agree : ∀ name, Template.tokenName? part = some name →
      first.lookup? name = second.lookup? name) (seen : SeenTokens) :
    segment first seen part = segment second seen part := by
  cases part with
  | literal text => rfl
  | token name source => simp only [segment, agree name rfl]

theorem segments_congr {parts : List Segment} (agree : first.AgreeOn second
    (Template.tokens parts)) (seen : SeenTokens) :
    segments first seen parts = segments second seen parts := by
  induction parts generalizing seen with
  | nil => rfl
  | cons part rest inductionHypothesis =>
      have head : ∀ seen, segment first seen part = segment second seen part :=
        segment_congr fun name named => agree name
          (List.mem_filterMap.2 ⟨part, List.mem_cons_self, named⟩)
      have tail : ∀ seen, segments first seen rest = segments second seen rest := by
        refine inductionHypothesis fun name member => agree name ?_
        obtain ⟨other, among, named⟩ := List.mem_filterMap.1 member
        exact List.mem_filterMap.2 ⟨other, List.mem_cons_of_mem _ among, named⟩
      simp only [segments, head, tail]

theorem text_congr {input : String} (agree : first.AgreeOn second (Template.tokensOf input))
    (seen : SeenTokens) : text first seen input = text second seen input :=
  segments_congr agree seen

theorem mem_tokens_of_single? {parts : List Segment} {name : String}
    (single : Template.single? parts = some name) : name ∈ Template.tokens parts := by
  unfold Template.single? at single
  split at single
  · cases single
    exact List.mem_singleton.2 rfl
  · cases single

theorem jsonString_congr {input : String}
    (agree : first.AgreeOn second (Template.tokensOf input)) (seen : SeenTokens) :
    jsonString first seen input = jsonString second seen input := by
  unfold jsonString
  cases single : Template.single? (Template.parse input) with
  | none => simp only [single, segments_congr agree]
  | some name => simp only [single, agree name (mem_tokens_of_single? single)]

mutual

theorem json_congr : (value : Json) → first.AgreeOn second value.tokens →
    ∀ seen, json first seen value = json second seen value
  | .null, _, _ => rfl
  | .bool _, _, _ => rfl
  | .number _, _, _ => rfl
  | .string input, agree, seen => by
      rw [json, json]
      exact jsonString_congr agree seen
  | .array items, agree, seen => by
      rw [json, json, jsonItems_congr items agree]
  | .object members, agree, seen => by
      rw [json, json, jsonMembers_congr members agree]

theorem jsonItems_congr : (items : List Json) →
    first.AgreeOn second (Json.tokensOfItems items) →
    ∀ seen, jsonItems first seen items = jsonItems second seen items
  | [], _, _ => by rw [jsonItems, jsonItems]
  | item :: rest, agree, seen => by
      rw [Json.tokensOfItems, ScopeStack.AgreeOn.append_iff] at agree
      rw [jsonItems, jsonItems, json_congr item agree.1, jsonItems_congr rest agree.2]

theorem jsonMembers_congr : (members : List (String × Json)) →
    first.AgreeOn second (Json.tokensOfMembers members) →
    ∀ seen, jsonMembers first seen members = jsonMembers second seen members
  | [], _, _ => by rw [jsonMembers, jsonMembers]
  | (key, value) :: rest, agree, seen => by
      rw [Json.tokensOfMembers, ScopeStack.AgreeOn.append_iff] at agree
      rw [jsonMembers, jsonMembers, json_congr value agree.1, jsonMembers_congr rest agree.2]

end

theorem values_congr {dict : Dict Json} (agree : first.AgreeOn second dict.tokens)
    (seen : SeenTokens) : values first seen dict = values second seen dict := by
  simp only [values, jsonMembers_congr dict.entries agree]

theorem body_congr {content : Option RequestBody}
    (agree : first.AgreeOn second ((content.map RequestBody.tokens).getD []))
    (seen : SeenTokens) : body first seen content = body second seen content := by
  cases content with
  | none => rfl
  | some content => rw [body, body, json_congr content.value agree]

theorem request_congr {template : RequestTemplate}
    (agree : first.AgreeOn second template.tokens) (seen : SeenTokens) :
    request first seen template = request second seen template := by
  simp only [RequestTemplate.tokens, ScopeStack.AgreeOn.append_iff] at agree
  obtain ⟨⟨⟨⟨⟨url, path⟩, query⟩, header⟩, cookie⟩, body⟩ := agree
  simp only [request, text_congr url, values_congr path, values_congr query,
    values_congr header, values_congr cookie, body_congr body]

end Substitution

end RequestFlow
