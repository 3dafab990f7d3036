import RequestFlow.Bundle.Lookup

/-!
Contract: what an `auth` entry asks for.

Owns: the lookup of an entry's credential and method, and its errors.
-/

namespace RequestFlow

/-- Why an `auth` entry cannot be met. -/
inductive AuthError where
  | unknownCredential (name : String)
  | unknownMethod (credential method : String)
deriving DecidableEq, Repr

def AuthError.message : AuthError → String
  | .unknownCredential name => "unknown credential '" ++ name ++ "'"
  | .unknownMethod credential method =>
      "credential '" ++ credential ++ "' has no method '" ++ method ++ "'"

/-- A credential under its name, and the method that acquires it. -/
structure Requirement where
  name : String
  credential : Credential
  method : CredentialMethod
deriving DecidableEq, Repr

/-- The credential and method that an `auth` entry names. -/
def Bundle.requirement (bundle : Bundle) (auth : String) : Except AuthError Requirement :=
  let reference := AuthRef.parse auth
  match bundle.credential? reference.name with
  | none => .error (.unknownCredential reference.name)
  | some credential =>
      match credential.method? reference.method with
      | none =>
          .error (.unknownMethod reference.name
            (reference.method.getD credential.defaultMethod))
      | some (_, method) => .ok ⟨reference.name, credential, method⟩

end RequestFlow
