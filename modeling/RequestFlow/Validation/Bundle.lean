import RequestFlow.Validation.Acquisition
import RequestFlow.Validation.Content

/-!
Contract: the consistency of a whole bundle.

Owns: the order of all checks, and `Bundle.validate`. In a bundle that passes,
every reference leads somewhere and no credential needs itself to be acquired.
-/

namespace RequestFlow

namespace Validation

def operation (bundle : Bundle) (id : String) (operation : Operation) : List Violation :=
  let location := "$.operations." ++ id
  require (operation.operationId == id) (location ++ ".operationId")
      ("must match its key '" ++ id ++ "'") ++
    stageContent bundle (location ++ ".request") operation.request ++
    (repeated Scenario.key [] operation.scenarios.zipIdx).map (fun (scenario, index) =>
      ⟨indexed (location ++ ".scenarios") index ++ ".key",
        "duplicate scenario key '" ++ scenario.key ++ "'"⟩) ++
    operation.authorizationTests.flatMap fun test =>
      require (bundle.authorizationTests.contains test) (location ++ ".authorizationTests")
        ("unknown authorization test '" ++ test ++ "'")

/-- A declared credential with its group. -/
structure Declaration where
  group : Nat
  name : String
  credential : Credential

def declarations (bundle : Bundle) : List Declaration :=
  bundle.credentialGroups.zipIdx.flatMap fun (group, index) =>
    group.entries.map fun (name, credential) => ⟨index, name, credential⟩

/-- Checks declarations one after another; a name may be declared once. -/
def checkDeclarations : (seen : List String) → List Declaration → List Violation
  | _, [] => []
  | seen, declaration :: rest =>
      let location := indexed "$.authenticationDetails" declaration.group ++ "." ++
        declaration.name
      require (!seen.contains declaration.name) location
          ("credential '" ++ declaration.name ++ "' is declared more than once") ++
        credential location declaration.name declaration.credential ++
        checkDeclarations (declaration.name :: seen) rest

def environment (name : String) (environment : Environment) : List Violation :=
  environment.declarations.keys.flatMap fun key =>
    variableName ("$.environments." ++ name ++ ".variables." ++ key) key

def authorizationTest (bundle : Bundle) (key : String) (test : AuthorizationTest) :
    List Violation :=
  (test.source ++ test.target).flatMap fun name =>
    require (bundle.hasCredential name) ("$.authorizationTests." ++ key)
      ("unknown credential '" ++ name ++ "'")

end Validation

open Validation in
/-- All violations of a bundle, in the order of the checks. -/
def Bundle.violations (bundle : Bundle) : List Violation :=
  identifiers "$.operations" bundle.operations.keys ++
    identifiers "$.requests" bundle.requests.keys ++
    bundle.operations.entries.flatMap (fun (id, found) => operation bundle id found) ++
    bundle.requests.entries.flatMap (fun (id, content) =>
      stageContent bundle ("$.requests." ++ id) content) ++
    checkDeclarations [] (declarations bundle) ++
    cycles bundle ++
    bundle.stageLists.flatMap (stageList bundle) ++
    bundle.environments.entries.flatMap (fun (name, found) => environment name found) ++
    bundle.authorizationTests.entries.flatMap fun (key, test) =>
      authorizationTest bundle key test

/-- Accepts a bundle without violations. -/
def Bundle.validate (bundle : Bundle) : Except (List Violation) Unit :=
  match bundle.violations with
  | [] => .ok ()
  | violations => .error violations

theorem Bundle.validate_eq_ok_iff {bundle : Bundle} :
    bundle.validate = .ok () ↔ bundle.violations = [] := by
  unfold Bundle.validate
  cases bundle.violations <;> simp

end RequestFlow
