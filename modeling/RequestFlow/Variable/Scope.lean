import RequestFlow.Bundle.Decoding
import RequestFlow.Bundle.Encoding

/-!
Contract: the stack of variable scopes.

Owns: scopes, their stack, and the lookup of a variable, which goes from the
scope pushed last back to the first. Nothing is ever removed from a stack.

Does not own: where scopes come from (`Variable.Seed`, `Run`).
-/

namespace RequestFlow

/-- Variables that were set together, and the rules that set them, if rules did. -/
structure Scope where
  id : String
  values : Dict Json
  assignments : List AssignmentRule
deriving DecidableEq, Repr

/-- A scope that no rules are recorded for. -/
def Scope.plain (id : String) (values : Dict Json) : Scope := ⟨id, values, []⟩

def Scope.toJson (scope : Scope) : Json :=
  Json.ofFields ([("id", .string scope.id), ("env", Json.ofDict scope.values)] ++
    listMember "assignments" AssignmentRule.toJson scope.assignments)

open RequestFlow.Document RequestFlow.Document.Decode in
def Scope.decode : Decoder Scope :=
  record [["id"], ["env"], ["assignments"]] fun fields =>
    Scope.mk <$> fields.required 0 "id" string
      <*> fields.required 1 "env" (dict json)
      <*> fields.optional 2 (list AssignmentRule.decode) []

/-- Scopes in the order in which they were pushed. -/
structure ScopeStack where
  scopes : List Scope
deriving DecidableEq, Repr

namespace ScopeStack

def empty : ScopeStack := ⟨[]⟩

def size (stack : ScopeStack) : Nat := stack.scopes.length

def push (stack : ScopeStack) (scope : Scope) : ScopeStack :=
  ⟨stack.scopes ++ [scope]⟩

def extend (stack : ScopeStack) (scopes : List Scope) : ScopeStack :=
  ⟨stack.scopes ++ scopes⟩

/-- The scope that a variable is taken from, and its value there. -/
def lookupScope? (stack : ScopeStack) (name : String) : Option (String × Json) :=
  stack.scopes.reverse.findSome? fun scope =>
    (scope.values.get? name).map fun value => (scope.id, value)

/-- The value of a variable: the one pushed last counts. -/
def lookup? (stack : ScopeStack) (name : String) : Option Json :=
  (stack.lookupScope? name).map Prod.snd

/-- The scopes that were pushed after the first `count` ones. -/
def since (stack : ScopeStack) (count : Nat) : List Scope :=
  stack.scopes.drop count

def toJson (stack : ScopeStack) : Json :=
  Json.ofList Scope.toJson stack.scopes

open RequestFlow.Document RequestFlow.Document.Decode in
def decode : Decoder ScopeStack := fun dialect node => do
  .ok ⟨← list Scope.decode dialect node⟩

end ScopeStack

end RequestFlow
