import RequestFlow.Bundle.Decoding
import RequestFlow.Document.JsonText
import RequestFlow.Document.Yaml.Tree
import RequestFlow.Validation.Bundle

/-!
Contract: bundles from texts.

Owns: the choice between JSON and YAML, reading a text as a bundle, loading one
that also has to be consistent, and the errors of both.

When the format is left open, a text that starts with a brace is tried as JSON
first and as YAML then; the error is the one of JSON. Any other text is YAML.
-/

namespace RequestFlow

/-- The format that a bundle was read in. -/
inductive BundleFormat where
  | json
  | yaml
deriving DecidableEq, Repr

def BundleFormat.name : BundleFormat → String
  | .json => "Json"
  | .yaml => "Yaml"

structure ParsedBundle where
  bundle : Bundle
  format : BundleFormat
deriving DecidableEq, Repr

/-- Why a text is no bundle. What is wrong with a YAML text is not told apart. -/
inductive ParseError where
  | notJson (error : Document.DecodeError)
  | notYaml
  | empty
deriving DecidableEq, Repr

def ParseError.message : ParseError → String
  | .notJson error =>
      "bundle is not valid JSON: " ++ (error.message?.getD (error.category ++ " error"))
  | .notYaml => "bundle is not valid YAML: no bundle can be read from it"
  | .empty => "bundle document is empty"

/-- Why a text is no bundle that can be used. -/
inductive LoadError where
  | unreadable (error : ParseError)
  | inconsistent (violations : List Violation)
deriving DecidableEq, Repr

def LoadError.message : LoadError → String
  | .unreadable error => "unreadable bundle: " ++ error.message
  | .inconsistent violations => "inconsistent bundle: " ++ Violation.summary violations

namespace ParsedBundle

def ofJsonText (text : String) : Except ParseError ParsedBundle :=
  match Document.JsonText.decode (Bundle.decode .text) text with
  | .ok bundle => .ok ⟨bundle, .json⟩
  | .error error => .error (.notJson error)

def ofYaml (text : String) : Except ParseError ParsedBundle :=
  match Document.Yaml.parse? text with
  | none => .error .notYaml
  | some root =>
      match Bundle.decode .yaml root with
      | .ok bundle => .ok ⟨bundle, .yaml⟩
      | .error _ => .error .notYaml

/-- Reads a text in whichever format it has. -/
def ofText (text : String) : Except ParseError ParsedBundle :=
  match (Text.trimStart text.toList).head? with
  | none => .error .empty
  | some '\x7b' =>
      match ofJsonText text with
      | .ok parsed => .ok parsed
      | .error error =>
          match ofYaml text with
          | .ok parsed => .ok parsed
          | .error _ => .error error
  | some _ => ofYaml text

/-- Accepts a bundle that was read, if it is consistent. -/
def checked (parsed : Except ParseError ParsedBundle) : Except LoadError ParsedBundle :=
  match parsed with
  | .error error => .error (.unreadable error)
  | .ok parsed =>
      match parsed.bundle.validate with
      | .ok () => .ok parsed
      | .error violations => .error (.inconsistent violations)

end ParsedBundle

end RequestFlow
