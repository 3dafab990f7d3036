import RequestFlow.Json.Basic

/-!
Contract: paths that select nodes of a JSON value.

Owns: the steps of a path, the selectors of a step, and the conditions that
filter children.

A condition may hold paths of its own, which start at the child under test or at
the document. An operand of a comparison is at most one value.
-/

namespace RequestFlow.JsonPath

/-- A range of array positions. Negative positions count from the end. -/
structure Slice where
  start : Option Int
  stop : Option Int
  step : Int
deriving DecidableEq, Repr

inductive Comparison where
  | equal
  | different
  | below
  | atMost
  | above
  | atLeast
deriving DecidableEq, Repr

/-- Where a path inside a condition starts. -/
inductive Origin where
  | document
  | current
deriving DecidableEq, Repr

mutual

inductive Selector where
  | member (name : String)
  | wildcard
  | element (index : Int)
  | slice (positions : Slice)
  | filter (condition : Condition)

/-- A step selects among the children of a node, or among the children of the
node and all its descendants. -/
inductive Step where
  | child (selectors : List Selector)
  | descendant (selectors : List Selector)

inductive Condition where
  | either (left right : Condition)
  | both (left right : Condition)
  | negated (inner : Condition)
  | compared (left : Operand) (comparison : Comparison) (right : Operand)
  | occurs (origin : Origin) (steps : List Step)
  | textMatches (whole : Bool) (text pattern : Operand)

/-- The only node of a path is nothing when the path has none or several. -/
inductive Operand where
  | literal (value : Json)
  | onlyNode (origin : Origin) (steps : List Step)
  | length (inner : Operand)
  | count (origin : Origin) (steps : List Step)

end

/-- Whether a step gives one child at most, whatever the node. -/
def Step.isSingular : Step → Bool
  | .child [.member _] => true
  | .child [.element _] => true
  | _ => false

end RequestFlow.JsonPath
