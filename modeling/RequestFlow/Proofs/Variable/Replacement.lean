import RequestFlow.Proofs.Dict
import RequestFlow.Proofs.Json.Location
import RequestFlow.Proofs.Variable.Reporting

/-!
Contract: a substitution replaces resolved tokens and touches nothing else.

Owns: what a substitution may make of a text, and of what stands at a position of a JSON value;
the proof that at every position nothing else happens; and that an input without a resolved
token comes back as it was.

The text of a token that is replaced is one segment of the input, so what is put in its place
is never searched for tokens.
-/

namespace RequestFlow

/-! ## What may become of a value -/

/-- A segment with its variable's text in the place of a token that has a value. -/
def Segment.filled (stack : ScopeStack) : Segment → String
  | .literal text => text
  | .token name source => ((stack.lookup? name).map Json.plainText).getD source

/-- No variable that a text names has a value. -/
def ScopeStack.ResolvesNone (stack : ScopeStack) (names : List String) : Prop :=
  ∀ name ∈ names, stack.lookup? name = none

/-- A text with its resolved tokens replaced by the texts of their variables, and the same text
if it has none. -/
structure FilledText (stack : ScopeStack) (input output : String) : Prop where
  segmented : Template.textOf (Template.parse input) = input
  replaced : output = String.join ((Template.parse input).map (Segment.filled stack))
  verbatim : stack.ResolvesNone (Template.tokensOf input) → output = input

/-- What becomes of a string: the value of its variable if it is one resolved token and nothing
else, and a filled text in all other cases. -/
inductive FilledString (stack : ScopeStack) (input : String) : Json → Prop where
  | typed {name : String} {value : Json} (token : Template.IsToken name input)
      (known : stack.lookup? name = some value) : FilledString stack input value
  | textual {output : String}
      (other : ∀ name, Template.IsToken name input → stack.lookup? name = none)
      (filled : FilledText stack input output) : FilledString stack input (.string output)

/-- What becomes of a value apart from what is inside it: arrays keep their length, objects
keep their keys, and all that is no string stays. -/
def FilledHere (stack : ScopeStack) : Json → Json → Prop
  | .string input, after => FilledString stack input after
  | .array items, after => ∃ filled, after = .array filled ∧ filled.length = items.length
  | .object members, after =>
      ∃ filled, after = .object filled ∧ filled.map Prod.fst = members.map Prod.fst
  | .null, after => after = .null
  | .bool value, after => after = .bool value
  | .number value, after => after = .number value

/-- What becomes of a value: at each of its positions there is what may become of what stands
there. -/
def Filled (stack : ScopeStack) (before after : Json) : Prop :=
  ∀ path here, before.at? path = some here →
    ∃ there, after.at? path = some there ∧ FilledHere stack here there

/-- What becomes of a request: all values of parameters and of the body are filled, the URL as
a text. The method, the media type and the names of parameters stay. -/
structure FilledRequest (stack : ScopeStack) (before after : RequestTemplate) : Prop where
  method : after.method = before.method
  url : FilledText stack before.url after.url
  path : Filled stack (.ofDict before.parameters.path) (.ofDict after.parameters.path)
  query : Filled stack (.ofDict before.parameters.query) (.ofDict after.parameters.query)
  header : Filled stack (.ofDict before.parameters.header) (.ofDict after.parameters.header)
  cookie : Filled stack (.ofDict before.parameters.cookie) (.ofDict after.parameters.cookie)
  body : Option.Rel (fun old new => new.mediaType = old.mediaType ∧
    Filled stack old.value new.value) before.body after.body

namespace Substitution

variable (stack : ScopeStack) (seen : SeenTokens)

/-! ## Texts -/

theorem segment_value (part : Segment) : (segment stack seen part).value = part.filled stack := by
  cases part with
  | literal text => rfl
  | token name source =>
      simp only [segment, Segment.filled]
      cases stack.lookup? name <;> rfl

theorem segments_value (parts : List Segment) :
    (segments stack seen parts).value = String.join (parts.map (Segment.filled stack)) := by
  induction parts generalizing seen with
  | nil => rfl
  | cons part rest inductionHypothesis =>
      rw [segments, inductionHypothesis, segment_value, List.map_cons, String.join_cons]

variable {stack} in
/-- Segments without a resolved token make up the text that they were taken from. -/
theorem join_filled_of_resolvesNone {parts : List Segment}
    (unresolved : stack.ResolvesNone (Template.tokens parts)) :
    String.join (parts.map (Segment.filled stack)) = Template.textOf parts := by
  have each : parts.map (Segment.filled stack) = parts.map Segment.source := by
    apply List.map_congr_left
    intro part member
    cases part with
    | literal text => rfl
    | token name source =>
        have named : name ∈ Template.tokens parts := List.mem_filterMap.2 ⟨_, member, rfl⟩
        rw [Segment.filled, unresolved name named]
        rfl
  rw [each, Template.textOf]

theorem filledText_segments (input : String) :
    FilledText stack input (segments stack seen (Template.parse input)).value where
  segmented := Template.textOf_parse input
  replaced := segments_value stack seen _
  verbatim := by
    intro unresolved
    rw [segments_value, join_filled_of_resolvesNone unresolved, Template.textOf_parse]

theorem filledText_text (input : String) :
    FilledText stack input (text stack seen input).value :=
  filledText_segments stack seen input

/-! ## Strings of JSON values -/

variable {stack} in
/-- A token without a value is a text that comes back as it was. -/
theorem filledString_unresolved {name input : String} (isToken : Template.IsToken name input)
    (unknown : stack.lookup? name = none) : FilledString stack input (.string input) := by
  have names : ∀ {other}, Template.IsToken other input → Template.tokensOf input = [other] :=
    Template.tokens_of_isToken
  have unresolved : stack.ResolvesNone (Template.tokensOf input) := by
    rw [names isToken]
    intro other member
    rw [List.mem_singleton.1 member, unknown]
  apply FilledString.textual
  · intro other otherToken
    apply unresolved
    rw [names otherToken]
    exact List.mem_singleton.2 rfl
  · have filled := filledText_text stack .none input
    rwa [filled.verbatim unresolved] at filled

theorem filledString_jsonString (input : String) :
    FilledString stack input (jsonString stack seen input).value := by
  unfold jsonString
  cases single : Template.single? (Template.parse input) with
  | none =>
      simp only [single]
      apply FilledString.textual
      · intro name isToken
        rw [Template.single?_parse_iff.2 isToken] at single
        cases single
      · exact filledText_segments stack seen input
  | some name =>
      have isToken := Template.single?_parse_iff.1 single
      simp only [single]
      cases known : stack.lookup? name with
      | some value => exact .typed isToken known
      | none => exact filledString_unresolved isToken known

/-! ## Positions of JSON values -/

theorem length_jsonItems (items : List Json) :
    (jsonItems stack seen items).value.length = items.length := by
  induction items generalizing seen with
  | nil => rfl
  | cons item rest inductionHypothesis => simp [jsonItems, inductionHypothesis]

theorem filledHere_json (value : Json) :
    FilledHere stack value (json stack seen value).value := by
  cases value with
  | null => rfl
  | bool value => rfl
  | number value => rfl
  | string input =>
      rw [json]
      exact filledString_jsonString stack seen input
  | array items =>
      rw [json]
      exact ⟨_, rfl, length_jsonItems stack seen items⟩
  | object members =>
      rw [json]
      exact ⟨_, rfl, jsonMembers_keys stack seen members⟩

theorem getElem?_jsonItems {items : List Json} {index : Nat} {item : Json}
    (found : items[index]? = some item) :
    ∃ later, (jsonItems stack seen items).value[index]? = some (json stack later item).value := by
  induction items generalizing seen index with
  | nil => cases found
  | cons first rest inductionHypothesis =>
      rw [jsonItems]
      cases index with
      | zero =>
          cases found
          exact ⟨seen, rfl⟩
      | succ index => exact inductionHypothesis _ found

theorem lookup_jsonMembers {members : List (String × Json)} {name : String} {value : Json}
    (found : members.lookup name = some value) :
    ∃ later, (jsonMembers stack seen members).value.lookup name =
      some (json stack later value).value := by
  induction members generalizing seen with
  | nil => cases found
  | cons member rest inductionHypothesis =>
      obtain ⟨key, first⟩ := member
      rw [jsonMembers]
      rw [lookup_cons_eq] at found ⊢
      by_cases here : name = key
      · rw [if_pos here] at found ⊢
        cases found
        exact ⟨seen, rfl⟩
      · rw [if_neg here] at found ⊢
        exact inductionHypothesis _ found

/-- What stands at a position of a result is the result for what stands there, after the names
recorded up to there. -/
theorem at?_json {path : List Json.Step} {value here : Json}
    (stands : value.at? path = some here) :
    ∃ later, (json stack seen value).value.at? path = some (json stack later here).value := by
  induction path generalizing seen value with
  | nil =>
      cases stands
      exact ⟨seen, rfl⟩
  | cons step path inductionHypothesis =>
      cases step with
      | element index =>
          obtain ⟨inside, found, standsInside⟩ := Option.bind_eq_some_iff.1 stands
          cases value with
          | array items =>
              obtain ⟨later, filled⟩ := getElem?_jsonItems stack seen found
              obtain ⟨last, standsThere⟩ := inductionHypothesis later standsInside
              refine ⟨last, ?_⟩
              rw [json, Json.at?, Json.element?, filled]
              exact standsThere
          | _ => cases found
      | member name =>
          obtain ⟨inside, found, standsInside⟩ := Option.bind_eq_some_iff.1 stands
          cases value with
          | object members =>
              obtain ⟨later, filled⟩ := lookup_jsonMembers stack seen found
              obtain ⟨last, standsThere⟩ := inductionHypothesis later standsInside
              refine ⟨last, ?_⟩
              rw [json, Json.at?, Json.member?, filled]
              exact standsThere
          | _ => cases found

theorem filled_json (value : Json) : Filled stack value (json stack seen value).value := by
  intro path here stands
  obtain ⟨later, standsThere⟩ := at?_json stack seen stands
  exact ⟨_, standsThere, filledHere_json stack later here⟩

theorem filled_values (dict : Dict Json) :
    Filled stack (.ofDict dict) (.ofDict (values stack seen dict).value) := by
  have filled := filled_json stack seen (.ofDict dict)
  rw [Json.ofDict, json] at filled
  exact filled

theorem filledRequest_request (template : RequestTemplate) :
    FilledRequest stack template (request stack seen template).value where
  method := rfl
  url := filledText_text stack seen template.url
  path := filled_values stack _ _
  query := filled_values stack _ _
  header := filled_values stack _ _
  cookie := filled_values stack _ _
  body := by
    obtain ⟨method, url, parameters, content⟩ := template
    cases content with
    | none => exact .none
    | some content => exact .some ⟨rfl, filled_json stack _ content.value⟩

/-! ## Nothing resolved, nothing changed -/

section ResolvesNone

variable {stack}

theorem jsonString_value_of_resolvesNone {input : String}
    (unresolved : stack.ResolvesNone (Template.tokensOf input)) :
    (jsonString stack seen input).value = .string input := by
  have becomes := filledString_jsonString stack seen input
  generalize (jsonString stack seen input).value = result at becomes ⊢
  cases becomes with
  | textual other filled => rw [filled.verbatim unresolved]
  | typed isToken known =>
      have names := Template.tokens_of_isToken isToken
      rw [unresolved _ (by rw [Template.tokensOf, names]; exact List.mem_singleton.2 rfl)] at known
      cases known

theorem resolvesNone_append {first second : List String} :
    stack.ResolvesNone (first ++ second) ↔
      stack.ResolvesNone first ∧ stack.ResolvesNone second :=
  List.forall_mem_append

mutual

theorem json_value_of_resolvesNone : (seen : SeenTokens) → (value : Json) →
    stack.ResolvesNone value.tokens → (json stack seen value).value = value
  | _, .null, _ | _, .bool _, _ | _, .number _, _ => by rw [json]
  | seen, .string input, unresolved => by
      rw [json]
      exact jsonString_value_of_resolvesNone seen unresolved
  | seen, .array items, unresolved => by
      rw [json, jsonItems_value_of_resolvesNone seen items unresolved]
  | seen, .object members, unresolved => by
      rw [json, jsonMembers_value_of_resolvesNone seen members unresolved]

theorem jsonItems_value_of_resolvesNone : (seen : SeenTokens) → (items : List Json) →
    stack.ResolvesNone (Json.tokensOfItems items) → (jsonItems stack seen items).value = items
  | _, [], _ => by rw [jsonItems]
  | seen, item :: rest, unresolved => by
      rw [Json.tokensOfItems, resolvesNone_append] at unresolved
      rw [jsonItems, json_value_of_resolvesNone seen item unresolved.1,
        jsonItems_value_of_resolvesNone _ rest unresolved.2]

theorem jsonMembers_value_of_resolvesNone : (seen : SeenTokens) →
    (members : List (String × Json)) → stack.ResolvesNone (Json.tokensOfMembers members) →
    (jsonMembers stack seen members).value = members
  | _, [], _ => by rw [jsonMembers]
  | seen, (key, value) :: rest, unresolved => by
      rw [Json.tokensOfMembers, resolvesNone_append] at unresolved
      rw [jsonMembers, json_value_of_resolvesNone seen value unresolved.1,
        jsonMembers_value_of_resolvesNone _ rest unresolved.2]

end

theorem values_value_of_resolvesNone {dict : Dict Json}
    (unresolved : stack.ResolvesNone dict.tokens) : (values stack seen dict).value = dict :=
  Dict.ext (jsonMembers_value_of_resolvesNone seen dict.entries unresolved)

theorem body_value_of_resolvesNone {content : Option RequestBody}
    (unresolved : stack.ResolvesNone ((content.map RequestBody.tokens).getD [])) :
    (body stack seen content).value = content := by
  cases content with
  | none => rfl
  | some content => rw [body, json_value_of_resolvesNone seen content.value unresolved]

theorem request_value_of_resolvesNone {template : RequestTemplate}
    (unresolved : stack.ResolvesNone template.tokens) :
    (request stack seen template).value = template := by
  simp only [RequestTemplate.tokens, resolvesNone_append] at unresolved
  obtain ⟨⟨⟨⟨⟨url, path⟩, query⟩, header⟩, cookie⟩, body⟩ := unresolved
  simp only [request, (filledText_text stack seen template.url).verbatim url,
    values_value_of_resolvesNone _ path, values_value_of_resolvesNone _ query,
    values_value_of_resolvesNone _ header, values_value_of_resolvesNone _ cookie,
    body_value_of_resolvesNone _ body]

/-- Names of which none is found have no values. -/
theorem resolvesNone_of_found {names : List String}
    (nothing : (SeenTokens.recordAll stack .none names).found = []) :
    stack.ResolvesNone names := by
  intro name member
  rw [Option.eq_none_iff_forall_ne_some]
  intro value known
  have found : name ∈ (SeenTokens.recordAll stack .none names).found :=
    SeenTokens.mem_found_recordAll_none.2 ⟨member, by rw [known]; rfl⟩
  rw [nothing] at found
  cases found

end ResolvesNone

/-! ## All that a substitution does -/

/-- A substitution in a value keeps its shape and all that is no string. A string that is one
resolved token becomes the value of the variable, and in any other string the resolved tokens
are replaced by texts. In a request this is so for all values of parameters and of the body.
The URL is a text, and so it is also filled as a text when it is one resolved token. If no
token is found, everything comes back as it was. -/
theorem replaces_resolved_tokens_only (stack : ScopeStack) :
    (∀ value : Json,
      Filled stack value (json stack .none value).value ∧
        ((json stack .none value).seen.found = [] → (json stack .none value).value = value)) ∧
      ∀ template : RequestTemplate,
        FilledRequest stack template (request stack .none template).value ∧
          ((request stack .none template).seen.found = [] →
            (request stack .none template).value = template) := by
  refine ⟨fun value => ⟨filled_json stack .none value, fun nothing => ?_⟩,
    fun template => ⟨filledRequest_request stack .none template, fun nothing => ?_⟩⟩
  · rw [json_seen] at nothing
    exact json_value_of_resolvesNone .none value (resolvesNone_of_found nothing)
  · rw [request_seen] at nothing
    exact request_value_of_resolvesNone .none (resolvesNone_of_found nothing)

/-- A variable that is a number. -/
def countStack : ScopeStack := ⟨[⟨"vars", Dict.ofList [("n", .number (.int 42))], []⟩]⟩

/-- A token that is not closed is not found, although its variable has a value. -/
theorem unclosed_token_stays :
    (json countStack .none (.string "\x7b\x7bn")).seen.found = [] ∧
      (json countStack .none (.string "\x7b\x7bn")).value = .string "\x7b\x7bn" := by
  have nothing : (json countStack .none (.string "\x7b\x7bn")).seen.found = [] := by
    decide +kernel
  exact ⟨nothing, ((replaces_resolved_tokens_only countStack).1 _).2 nothing⟩

/-- The URL that is the variable's token becomes the text of the number. The same text as the
value of a parameter becomes the number. -/
theorem numeric_url_is_text :
    Template.IsToken "n" "\x7b\x7bn\x7d\x7d" ∧
      countStack.lookup? "n" = some (.number (.int 42)) ∧
      (request countStack .none ⟨"GET", "\x7b\x7bn\x7d\x7d", .none, none⟩).value.url = "42" ∧
      ¬ FilledString countStack "\x7b\x7bn\x7d\x7d" (.string "42") ∧
      (json countStack .none (.string "\x7b\x7bn\x7d\x7d")).value = .number (.int 42) := by
  have isToken : Template.IsToken "n" "\x7b\x7bn\x7d\x7d" :=
    ⟨['n'], ⟨by decide, [], [], by decide⟩, by decide⟩
  have known : countStack.lookup? "n" = some (.number (.int 42)) := by decide +kernel
  refine ⟨isToken, known, by decide +kernel, ?_, by decide +kernel⟩
  intro filled
  cases filled with
  | typed otherToken otherKnown =>
      have names := Template.tokens_of_isToken isToken
      rw [Template.tokens_of_isToken otherToken] at names
      cases names
      rw [known] at otherKnown
      cases otherKnown
  | textual other _ =>
      rw [other "n" isToken] at known
      cases known

end Substitution

end RequestFlow
