import RequestFlow.Template.Token

/-!
Contract: what a validation reports.

Owns: violations, the error that a list of them makes, and the forms of
identifiers and methods.

Every check of the `Validation` modules is a function to the list of violations
it finds, in the order in which they are reported.
-/

namespace RequestFlow

/-- A problem of a bundle, pinned to a location that starts with `$.`. -/
structure Violation where
  location : String
  message : String
deriving DecidableEq, Repr

namespace Violation

def text (violation : Violation) : String :=
  violation.location ++ ": " ++ violation.message

/-- The summary of a list of violations. -/
def summary (violations : List Violation) : String :=
  let first :=
    match violations.head? with
    | some violation => ", first at " ++ violation.text
    | none => ""
  Text.natText violations.length ++ " problem(s)" ++ first

end Violation

namespace Validation

/-- A violation when a condition does not hold. -/
def require (holds : Bool) (location message : String) : List Violation :=
  if holds then [] else [⟨location, message⟩]

/-- Identifiers are not empty and hold letters, digits, `_`, `.` and `-` only. -/
def isIdentifier (id : String) : Bool :=
  !id.isEmpty && id.toList.all fun char =>
    Text.isAlphanumeric char || char == '_' || char == '.' || char == '-'

/-- Methods are made of letters. -/
def isMethod (method : String) : Bool :=
  !method.isEmpty && method.toList.all Text.isLetter

def identifiers (location : String) (keys : List String) : List Violation :=
  keys.flatMap fun key =>
    require (isIdentifier key) (location ++ "." ++ key)
      "identifier must match regex ^[A-Za-z0-9_\\.\\-]+$"

def variableName (location name : String) : List Violation :=
  require (VariableName.isValid name) location ("invalid variable name '" ++ name ++ "'")

/-- The place of an item in a list. -/
def indexed (location : String) (index : Nat) : String :=
  location ++ "[" ++ Text.natText index ++ "]"

/-- Runs a check on every item with its place. -/
def eachItem {α : Type} (location : String) (items : List α)
    (check : String → α → List Violation) : List Violation :=
  items.zipIdx.flatMap fun (item, index) => check (indexed location index) item

/-- The items that repeat an earlier one, judged by a key, with their places. -/
def repeated {α : Type} (key : α → String) : (seen : List String) → List (α × Nat) →
    List (α × Nat)
  | _, [] => []
  | seen, (item, index) :: rest =>
      if seen.contains (key item) then (item, index) :: repeated key seen rest
      else repeated key (key item :: seen) rest

end Validation

end RequestFlow
