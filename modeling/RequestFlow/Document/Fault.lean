/-!
Contract: why a document does not decode.

Owns: `Fault`, a defect of the text itself, and `DecodeError`, the reasons that a
typed reading gives, with their categories and their wording.
-/

namespace RequestFlow.Document

/-- Whether a text ends too early or holds something that cannot stand there. -/
inductive Defect where
  | malformed
  | truncated
deriving DecidableEq, Repr

/-- A defect as met by a reading of the value and by a reading that skips it.
The two differ where skipping checks less: inside numbers and inside escapes. -/
structure Fault where
  read : Defect
  skipped : Defect
deriving DecidableEq, Repr

namespace Fault

def malformed : Fault := ⟨.malformed, .malformed⟩

def truncated : Fault := ⟨.truncated, .truncated⟩

/-- The text ends inside a number. Skipping only asks for a digit. -/
def cutNumber : Fault := ⟨.truncated, .malformed⟩

/-- The text ends inside a string that holds half of a surrogate pair. -/
def cutGarbled : Fault := ⟨.malformed, .truncated⟩

end Fault

/-- The first reason, in document order, that a document is not of the wanted shape. -/
inductive DecodeError where
  | malformed
  | truncated
  | missingField (name : String)
  | duplicateField (name : String)
  | unknownVariant (found : String) (expected : List String)
  | noStageShape
  | wrongType
  | wrongValue
  | wrongLength
deriving DecidableEq, Repr

def Defect.error : Defect → DecodeError
  | .malformed => .malformed
  | .truncated => .truncated

namespace DecodeError

/-- `data` for a well-formed text of the wrong shape. -/
def category : DecodeError → String
  | .malformed => "syntax"
  | .truncated => "eof"
  | _ => "data"

def inTicks (name : String) : String :=
  "`" ++ name ++ "`"

/-- The alternatives of a variant: one alone, two joined by `or`, more as a list. -/
def alternatives : List String → String
  | [] => "there are no variants"
  | [only] => "expected " ++ inTicks only
  | [first, second] => "expected " ++ inTicks first ++ " or " ++ inTicks second
  | names => "expected one of " ++ String.intercalate ", " (names.map inTicks)

/-- The wording of a shape error; defects of the text have none of their own. -/
def message? : DecodeError → Option String
  | .malformed | .truncated => none
  | .missingField name => some ("missing field " ++ inTicks name)
  | .duplicateField name => some ("duplicate field " ++ inTicks name)
  | .unknownVariant found expected =>
      some ("unknown variant " ++ inTicks found ++ ", " ++ alternatives expected)
  | .noStageShape => some "data did not match any variant of untagged enum Stage"
  | .wrongType => some "invalid type"
  | .wrongValue => some "invalid value"
  | .wrongLength => some "invalid length"

end DecodeError

end RequestFlow.Document
