import RequestFlow.Bundle.Lookup
import RequestFlow.Validation.Basic

/-!
Contract: checks on credentials and on what they need to be acquired.

Owns: the checks of a single credential, the graph that leads from a credential
to the credentials that its acquisition stages need, and the search for cycles
in that graph.

The search follows the graph depth first. `trail` is the path from a start to
the current credential, the last one first. A credential is done when everything
behind it was followed; a step onto the trail closes a cycle.
-/

namespace RequestFlow.Validation

/-! ## Single credentials -/

def credential (location name : String) (credential : Credential) : List Violation :=
  let isKey := credential.kind == .apiKey
  require (credential.methods.contains credential.defaultMethod) (location ++ ".default")
      ("default method '" ++ credential.defaultMethod ++ "' is not declared for '" ++ name ++
        "'") ++
    require (!isKey || !(credential.name.getD "").isEmpty) (location ++ ".name")
      "apiKey credentials need a name" ++
    require (!isKey || credential.place.isSome) (location ++ ".in")
      "apiKey credentials need a location" ++
    require (isKey || credential.place == none || credential.place == some .header)
      (location ++ ".in") "only apiKey credentials may be placed in query or cookie"

/-! ## The dependency graph -/

/-- The `auth` entries of an inline stage. -/
def inlineAuth : Stage → List String
  | .inline content _ => content.auth
  | .reference .. => []

/-- The `auth` entries that a stage brings with it. A reference to an acquisition
stage is followed one step. -/
def stageAuth (bundle : Bundle) : Stage → List String
  | .inline content _ => content.auth
  | .reference (.operation id) _ =>
      ((bundle.operations.get? id).map fun operation => operation.request.auth).getD []
  | .reference (.request id) _ => ((bundle.requests.get? id).map StageContent.auth).getD []
  | .reference (.credential id method position) _ =>
      (do
        let found ← bundle.credential? id
        let (_, found) ← found.method? method
        let stage ← found.requests[position]?
        some (inlineAuth stage)).getD []

/-- The credentials that a credential's acquisition stages need. -/
def dependencies (bundle : Bundle) (credential : Credential) : List String :=
  credential.methods.values.flatMap fun method =>
    method.requests.flatMap fun stage =>
      (stageAuth bundle stage).map fun entry => (AuthRef.parse entry).name

/-- The names in order, each once. -/
def nameSet (names : List String) : List String :=
  (Dict.ofList (names.map fun name => (name, ()))).keys

/-- Each declared name with the names it needs; declarations of one name are joined. -/
def dependencyGraph (bundle : Bundle) : Dict (List String) :=
  (bundle.credentialGroups.flatMap Dict.entries).foldl
    (fun graph (name, credential) =>
      graph.insert name
        (nameSet ((graph.get? name).getD [] ++ dependencies bundle credential))) ∅

/-! ## Cycles -/

/-- What a search has found out. -/
structure CycleSearch where
  done : List String
  reported : List String
  violations : List Violation

def CycleSearch.start : CycleSearch := ⟨[], [], []⟩

/-- The cycle that a step onto `name` closes, from `name` to `name`. -/
def cycleText (trail : List String) (name : String) : String :=
  let path := trail.reverse.dropWhile (· != name)
  String.intercalate " -> " (path ++ [name])

/-- Follows the graph from one credential. Every level of recursion adds a new
name with edges to the trail, so that `fuel` above the number of such names is
never used up. -/
def followGraph (graph : Dict (List String)) :
    (fuel : Nat) → (trail : List String) → CycleSearch → String → CycleSearch
  | 0, _, search, _ => search
  | fuel + 1, trail, search, name =>
      if search.done.contains name then search
      else if trail.contains name then
        if search.reported.contains name then search
        else
          { search with
            reported := name :: search.reported
            violations := search.violations ++
              [⟨"$.authenticationDetails." ++ name,
                "credential acquisition cycle: " ++ cycleText trail name⟩] }
      else
        let found := ((graph.get? name).getD []).foldl
          (followGraph graph fuel (name :: trail)) search
        { found with done := name :: found.done }

/-- The cycles of the acquisition graph, each starting credential once. -/
def cycles (bundle : Bundle) : List Violation :=
  let graph := dependencyGraph bundle
  (graph.keys.foldl (followGraph graph (graph.size + 2) []) CycleSearch.start).violations

end RequestFlow.Validation
