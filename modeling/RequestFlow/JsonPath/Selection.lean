import RequestFlow.JsonPath.Basic
import RequestFlow.Regex.Parser

/-!
Contract: the nodes that a path selects.

Owns: children and descendants of a value, slices, comparisons, conditions, and
the selection itself.

Children of an object stand in key order. Descendants stand in the order in which
the text of the value names them, the value itself first. Nothing is equal to
nothing, and only numbers and texts have an order.
-/

namespace RequestFlow

namespace Json

def children : Json → List Json
  | .array items => items
  | .object members => members.map Prod.snd
  | _ => []

mutual

/-- A value and everything in it. -/
def withDescendants : Json → List Json
  | .array items => .array items :: itemDescendants items
  | .object members => .object members :: memberDescendants members
  | value => [value]

def itemDescendants : List Json → List Json
  | [] => []
  | item :: rest => withDescendants item ++ itemDescendants rest

def memberDescendants : List (String × Json) → List Json
  | [] => []
  | (_, value) :: rest => withDescendants value ++ memberDescendants rest

end

end Json

/-- The double nearest to a number. -/
def Number.nearest : Number → Option Decimal.Double
  | .int value => Decimal.Double.nearest (value < 0) value.natAbs 1
  | .double value => some value

namespace JsonPath

/-! ## Slices -/

/-- A position from the start, for one that may count from the end. -/
def fromStart (size position : Int) : Int :=
  if position < 0 then size + position else position

/-- The positions of a slice in an array of a size, in their order. A slice whose
step is zero has none. -/
def Slice.positions (slice : Slice) (size : Nat) : List Int :=
  let size : Int := size
  let clamp (low high position : Int) : Int := max low (min high position)
  if slice.step > 0 then
    let first := clamp 0 size (fromStart size (slice.start.getD 0))
    let stop := clamp 0 size (fromStart size (slice.stop.getD size))
    let count := (stop - first + slice.step - 1) / slice.step
    (List.range count.toNat).map fun (index : Nat) => first + index * slice.step
  else if slice.step < 0 then
    let first := clamp (-1) (size - 1) (fromStart size (slice.start.getD (size - 1)))
    let stop :=
      match slice.stop with
      | some stop => clamp (-1) (size - 1) (fromStart size stop)
      | none => -1
    let count := (first - stop - slice.step - 1) / -slice.step
    (List.range count.toNat).map fun (index : Nat) => first + index * slice.step
  else []

/-- The element at a position that may count from the end. -/
def elementAt? (value : Json) (position : Int) : Option Json :=
  match value with
  | .array items =>
      let place := fromStart items.length position
      if place < 0 then none else items[place.toNat]?
  | _ => none

/-! ## Comparisons -/

def sameNumber (left right : Number) : Bool :=
  match left.nearest, right.nearest with
  | some left, some right => left.same right
  | _, _ => false

mutual

/-- Equality of values, where numbers are equal when their doubles are. -/
def sameValue : Json → Json → Bool
  | .number left, .number right => sameNumber left right
  | .array left, .array right => sameItems left right
  | .object left, .object right => sameMembers left right
  | .null, .null => true
  | .bool left, .bool right => left == right
  | .string left, .string right => left == right
  | _, _ => false

def sameItems : List Json → List Json → Bool
  | [], [] => true
  | left :: leftRest, right :: rightRest =>
      sameValue left right && sameItems leftRest rightRest
  | _, _ => false

def sameMembers : List (String × Json) → List (String × Json) → Bool
  | [], [] => true
  | (leftKey, left) :: leftRest, (rightKey, right) :: rightRest =>
      leftKey == rightKey && sameValue left right && sameMembers leftRest rightRest
  | _, _ => false

end

def isBelow : Json → Json → Bool
  | .number left, .number right =>
      match left.nearest, right.nearest with
      | some left, some right => left.less right
      | _, _ => false
  | .string left, .string right => left < right
  | _, _ => false

def areSame (left right : Option Json) : Bool :=
  match left, right with
  | some left, some right => sameValue left right
  | none, none => true
  | _, _ => false

def isBefore (left right : Option Json) : Bool :=
  match left, right with
  | some left, some right => isBelow left right
  | _, _ => false

def Comparison.holds (comparison : Comparison) (left right : Option Json) : Bool :=
  match comparison with
  | .equal => areSame left right
  | .different => !areSame left right
  | .below => isBefore left right
  | .atMost => isBefore left right || areSame left right
  | .above => isBefore right left
  | .atLeast => isBefore right left || areSame left right

/-! ## Functions -/

/-- The characters of a text, or the children of a container. -/
def size? : Json → Option Nat
  | .string text => some text.length
  | .array items => some items.length
  | .object members => some members.length
  | _ => none

/-- Whether a text matches a regular expression, as a whole or in some part. -/
def textMatches (whole : Bool) (text pattern : Option Json) : Bool :=
  match text, pattern with
  | some (.string text), some (.string pattern) =>
      match Regex.parse? pattern with
      | some regex =>
          if whole then regex.matchesAll text.toList else regex.matchesPart text.toList
      | none => false
  | _, _ => false

def onlyOne (nodes : List Json) : Option Json :=
  match nodes with
  | [node] => some node
  | _ => none

def Origin.node (document current : Json) : Origin → Json
  | .document => document
  | .current => current

/-! ## Selection -/

mutual

/-- The children of a value that a selector takes. -/
def select (document : Json) : Selector → Json → List Json
  | .member name, value => (value.member? name).toList
  | .wildcard, value => value.children
  | .element index, value => (elementAt? value index).toList
  | .slice slice, value =>
      match value with
      | .array items => (slice.positions items.length).filterMap fun place => items[place.toNat]?
      | _ => []
  | .filter condition, value => value.children.filter fun child => holds document condition child

def selectAll (document : Json) : List Selector → Json → List Json
  | [], _ => []
  | selector :: rest, value => select document selector value ++ selectAll document rest value

def takeStep (document : Json) : Step → List Json → List Json
  | .child selectors, nodes => nodes.flatMap fun node => selectAll document selectors node
  | .descendant selectors, nodes =>
      (nodes.flatMap Json.withDescendants).flatMap fun node => selectAll document selectors node

/-- The nodes that steps lead to. -/
def follow (document : Json) : List Step → List Json → List Json
  | [], nodes => nodes
  | step :: rest, nodes => follow document rest (takeStep document step nodes)

def holds (document : Json) : Condition → Json → Bool
  | .either left right, current => holds document left current || holds document right current
  | .both left right, current => holds document left current && holds document right current
  | .negated inner, current => !holds document inner current
  | .compared left comparison right, current =>
      comparison.holds (evaluate document left current) (evaluate document right current)
  | .occurs origin steps, current =>
      !(follow document steps [origin.node document current]).isEmpty
  | .textMatches whole text pattern, current =>
      textMatches whole (evaluate document text current) (evaluate document pattern current)

/-- The value of an operand, if it has one. -/
def evaluate (document : Json) : Operand → Json → Option Json
  | .literal value, _ => some value
  | .onlyNode origin steps, current =>
      onlyOne (follow document steps [origin.node document current])
  | .length inner, current => do
      some (Json.ofNat (← size? (← evaluate document inner current)))
  | .count origin steps, current =>
      some (Json.ofNat (follow document steps [origin.node document current]).length)

end

/-- The nodes of a document that a path selects, in order. -/
def nodes (path : List Step) (document : Json) : List Json :=
  follow document path [document]

end JsonPath

end RequestFlow
