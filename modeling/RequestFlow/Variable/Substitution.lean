import RequestFlow.Json.Printer
import RequestFlow.Template.Token
import RequestFlow.Variable.Scope

/-!
Contract: replacing tokens by the values of variables.

Owns: the substitution in texts, JSON values, dictionaries of values and request
templates. A text that is one token takes the variable's value as it is; a token
inside a longer text is replaced by the value's plain text; a token without a
value stays as it was written.

The names of the tokens met are recorded on the way, each once, in the order of
their first appearance, apart by whether they had a value.

Inserted text is never searched for further tokens.
-/

namespace RequestFlow

/-- The token names met so far. -/
structure SeenTokens where
  found : List String
  missing : List String
deriving DecidableEq, Repr

namespace SeenTokens

def none : SeenTokens := ⟨[], []⟩

/-- A name at the end of a list, unless the list has it. -/
def addName (names : List String) (name : String) : List String :=
  if names.contains name then names else names ++ [name]

def addNames (names more : List String) : List String :=
  more.foldl addName names

def recordFound (seen : SeenTokens) (name : String) : SeenTokens :=
  { seen with found := addName seen.found name }

def recordMissing (seen : SeenTokens) (name : String) : SeenTokens :=
  { seen with missing := addName seen.missing name }

/-- The names of two substitutions that follow one another. -/
def append (first second : SeenTokens) : SeenTokens :=
  ⟨addNames first.found second.found, addNames first.missing second.missing⟩

end SeenTokens

/-- The outcome of a substitution. -/
structure Substituted (α : Type) where
  value : α
  seen : SeenTokens
deriving DecidableEq, Repr

namespace Substitution

/-- The text of one segment. -/
def segment (stack : ScopeStack) (seen : SeenTokens) : Segment → Substituted String
  | .literal text => ⟨text, seen⟩
  | .token name source =>
      match stack.lookup? name with
      | some value => ⟨value.plainText, seen.recordFound name⟩
      | none => ⟨source, seen.recordMissing name⟩

def segments (stack : ScopeStack) : (seen : SeenTokens) → List Segment → Substituted String
  | seen, [] => ⟨"", seen⟩
  | seen, first :: rest =>
      let head := segment stack seen first
      let tail := segments stack head.seen rest
      ⟨head.value ++ tail.value, tail.seen⟩

def text (stack : ScopeStack) (seen : SeenTokens) (input : String) : Substituted String :=
  segments stack seen (Template.parse input)

/-- A string of a JSON value. -/
def jsonString (stack : ScopeStack) (seen : SeenTokens) (input : String) : Substituted Json :=
  let template := Template.parse input
  match Template.single? template with
  | some name =>
      match stack.lookup? name with
      | some value => ⟨value, seen.recordFound name⟩
      | none => ⟨.string input, seen.recordMissing name⟩
  | none =>
      let filled := segments stack seen template
      ⟨.string filled.value, filled.seen⟩

mutual

def json (stack : ScopeStack) (seen : SeenTokens) : Json → Substituted Json
  | .string input => jsonString stack seen input
  | .array items =>
      let filled := jsonItems stack seen items
      ⟨.array filled.value, filled.seen⟩
  | .object members =>
      let filled := jsonMembers stack seen members
      ⟨.object filled.value, filled.seen⟩
  | .null => ⟨.null, seen⟩
  | .bool value => ⟨.bool value, seen⟩
  | .number value => ⟨.number value, seen⟩

def jsonItems (stack : ScopeStack) (seen : SeenTokens) :
    List Json → Substituted (List Json)
  | [] => ⟨[], seen⟩
  | item :: rest =>
      let head := json stack seen item
      let tail := jsonItems stack head.seen rest
      ⟨head.value :: tail.value, tail.seen⟩

def jsonMembers (stack : ScopeStack) (seen : SeenTokens) :
    List (String × Json) → Substituted (List (String × Json))
  | [] => ⟨[], seen⟩
  | (key, value) :: rest =>
      let head := json stack seen value
      let tail := jsonMembers stack head.seen rest
      ⟨(key, head.value) :: tail.value, tail.seen⟩

end

/-- Substitution leaves the keys of an object as they are. -/
theorem jsonMembers_keys (stack : ScopeStack) (seen : SeenTokens)
    (members : List (String × Json)) :
    (jsonMembers stack seen members).value.map Prod.fst = members.map Prod.fst := by
  induction members generalizing seen with
  | nil => rfl
  | cons member rest inductionHypothesis =>
      simp [jsonMembers, inductionHypothesis]

/-- Key order depends on the keys alone. -/
theorem keysIncrease_of_keys_eq {α β : Type} {left : List (String × α)}
    {right : List (String × β)} (sameKeys : left.map Prod.fst = right.map Prod.fst)
    (increasing : KeysIncrease right) : KeysIncrease left := by
  have rightKeys : (right.map Prod.fst).Pairwise (· < ·) := List.pairwise_map.2 increasing
  exact List.pairwise_map.1 (sameKeys ▸ rightKeys)

/-- The values of a dictionary; the keys are no templates. -/
def values (stack : ScopeStack) (seen : SeenTokens) (dict : Dict Json) :
    Substituted (Dict Json) :=
  let filled := jsonMembers stack seen dict.entries
  ⟨⟨filled.value, keysIncrease_of_keys_eq (jsonMembers_keys stack seen dict.entries)
    dict.increasing⟩, filled.seen⟩

def body (stack : ScopeStack) (seen : SeenTokens) :
    Option RequestBody → Substituted (Option RequestBody)
  | none => ⟨none, seen⟩
  | some body =>
      let filled := json stack seen body.value
      ⟨some { body with value := filled.value }, filled.seen⟩

/-- A request template: its URL, then the parameters by place, then the body.
The method, the media type and the names of parameters are no templates. -/
def request (stack : ScopeStack) (seen : SeenTokens) (template : RequestTemplate) :
    Substituted RequestTemplate :=
  let url := text stack seen template.url
  let path := values stack url.seen template.parameters.path
  let query := values stack path.seen template.parameters.query
  let header := values stack query.seen template.parameters.header
  let cookie := values stack header.seen template.parameters.cookie
  let body := body stack cookie.seen template.body
  ⟨⟨template.method, url.value, ⟨path.value, query.value, header.value, cookie.value⟩,
    body.value⟩, body.seen⟩

end Substitution

end RequestFlow
