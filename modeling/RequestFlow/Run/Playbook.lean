import RequestFlow.Bundle.Decoding
import RequestFlow.Bundle.Encoding
import RequestFlow.Run.Resolution

/-!
Contract: the playbooks of a run.

Owns: playbooks, and the lists of them that run a scenario or a single request,
wrapped in what the bundle and the operation ask for before and after.
-/

namespace RequestFlow

/-- A named list of stages. -/
structure Playbook where
  name : String
  stages : List Stage
deriving DecidableEq, Repr

namespace Playbook

def toJson (playbook : Playbook) : Json :=
  Json.ofFields [("name", .string playbook.name),
    ("stages", Json.ofList Stage.toJson playbook.stages)]

open Document Decode in
def decode : Decoder Playbook :=
  record [["name"], ["stages"]] fun fields =>
    Playbook.mk <$> fields.required 0 "name" string
      <*> fields.required 1 "stages" (list Stage.decode)

/-- A playbook, unless it has no stages. -/
def unlessEmpty (name : String) (stages : List Stage) : List Playbook :=
  if stages.isEmpty then [] else [⟨name, stages⟩]

/-- Puts a bundle's own stages around some playbooks. -/
def wrapped (bundle : Bundle) (playbooks : List Playbook) : List Playbook :=
  unlessEmpty "Global Before" bundle.before ++ playbooks ++
    unlessEmpty "Global After" bundle.after

/-- The scenario with a key; the first one when no key is given. -/
def chosenScenario? (operation : Operation) : Option String → Option Scenario
  | some key => (operation.scenario? key).map Prod.snd
  | none => operation.scenarios.head?

/-- The playbooks that run a scenario of an operation. The scenario's own
playbook is there even when it is empty. -/
def ofScenario (bundle : Bundle) (operationId : String) (key : Option String) :
    Except ResolveError (List Playbook) :=
  match bundle.operations.get? operationId with
  | none => .error (.operation operationId)
  | some operation =>
      match chosenScenario? operation key with
      | none => .error (.scenario operationId (key.getD "<first>"))
      | some scenario =>
          .ok (wrapped bundle (unlessEmpty "Before" operation.before ++
            [⟨"Scenario", scenario.requests⟩] ++ unlessEmpty "After" operation.after))

/-- The playbooks that send a single request. -/
def ofTarget (bundle : Bundle) (target : Target) : Except ResolveError (List Playbook) :=
  match bundle.resolveTarget target with
  | .error error => .error error
  | .ok _ => .ok (wrapped bundle [⟨"Request", [.reference target ∅]⟩])

end Playbook

end RequestFlow
