import RequestFlow.Json.Basic
import RequestFlow.Text.Blank
import RequestFlow.Text.Split

/-!
Contract: the inputs that a user gives.

Owns: laying arguments `KEY=VALUE` over an object of inputs. Nothing is merged
unless all arguments are well formed.
-/

namespace RequestFlow

inductive InputsError where
  | malformed (argument : String)
  | notObject
deriving DecidableEq, Repr

def InputsError.message : InputsError → String
  | .malformed argument =>
      "invalid --set argument '" ++ argument ++ "': expected KEY=VALUE"
  | .notObject => "--set needs the inputs file to hold an object"

namespace Inputs

/-- The key and value of an argument. The key ends at the first equals sign and
is not blank. -/
def pair? (argument : String) : Option (String × String) :=
  match Text.cutString '=' argument with
  | some (key, value) =>
      if Text.isAllBlank key then none else some (Text.trimmed key, value)
  | none => none

/-- The pairs of some arguments, or the first argument that is malformed. -/
def pairs : List String → Except InputsError (List (String × String))
  | [] => .ok []
  | argument :: rest =>
      match pair? argument with
      | none => .error (.malformed argument)
      | some pair => (pairs rest).map (pair :: ·)

/-- Puts texts over the members of an object. -/
def overlay (members : Dict Json) (pairs : List (String × String)) : Json :=
  Json.ofDict (pairs.foldl (fun object (key, value) => object.insert key (.string value)) members)

/-- Merges arguments into held inputs, which may be absent. Beside the outcome stand the
inputs that are held afterwards. -/
def mergeInto (held : Option Json) (arguments : List String) :
    Except InputsError Unit × Option Json :=
  match pairs arguments with
  | .error error => (.error error, held)
  | .ok [] => (.ok (), held)
  | .ok (first :: rest) =>
      -- From here on absent inputs are held as an object without members.
      let object := held.getD (Json.ofDict ∅)
      match object.toDict? with
      | none => (.error .notObject, some object)
      | some members => (.ok (), some (overlay members (first :: rest)))

/-- The inputs that a merge makes. -/
def merge (inputs : Option Json) (arguments : List String) :
    Except InputsError (Option Json) :=
  let (outcome, held) := mergeInto inputs arguments
  outcome.map fun _ => held

end Inputs

end RequestFlow
