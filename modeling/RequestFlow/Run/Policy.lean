import RequestFlow.Document.Decode

/-!
Contract: what follows the failure of a stage.

Owns: the three policies, their words, and the error for any other word.
-/

namespace RequestFlow

/-- What follows the failure of a stage: the next stage of its playbook, the
next playbook, or the end of the run. -/
inductive FailurePolicy where
  | continueStages
  | abortPlaybook
  | abortRun
deriving DecidableEq, Repr

namespace FailurePolicy

/-- The policy that holds when none is chosen. -/
def standard : FailurePolicy := .abortPlaybook

def word : FailurePolicy → String
  | .continueStages => "continue-stages"
  | .abortPlaybook => "abort-playbook"
  | .abortRun => "abort-run"

def words : List (String × FailurePolicy) :=
  [FailurePolicy.continueStages, .abortPlaybook, .abortRun].map fun policy =>
    (policy.word, policy)

/-- The error for a word that names no policy. -/
def unknown (word : String) : String :=
  "unknown failure policy '" ++ word ++
    "' (expected continue-stages, abort-playbook or abort-run)"

def ofWord (word : String) : Except String FailurePolicy :=
  match words.lookup word with
  | some policy => .ok policy
  | none => .error (unknown word)

open Document Decode in
def decode : Decoder FailurePolicy := choice words

end FailurePolicy

end RequestFlow
