import RequestFlow.Document.Fault
import RequestFlow.Document.Scalar

/-!
Contract: documents as trees that keep their own defects.

A reader never fails: where a text breaks off or holds something impossible, the
tree holds a `Fault` at that place and ends there. Typed readings walk the tree
in document order and stop at the first fault they meet, so a shape error before
a defect is reported as a shape error, and a defect before it as a defect.

Owns: the tree, the three readings that need no type (skipping a value, settling
it into a tree of plain values, and taking it as JSON), and the tree of a JSON
value.

Does not own: the grammars of JSON and YAML text, and typed readings.
-/

namespace RequestFlow.Document

/-- A node of a document.

* `infinite` is a number without a JSON literal;
* `unfit` is a scalar that is well formed but has no value, such as a number
  beyond all doubles;
* `loose` is a YAML scalar, whose meaning depends on what the reader wants;
* a sequence or mapping whose `ending` is a fault is not closed;
* `marked` is a YAML container with an application's own type mark;
* `deep` is a container nested beyond the limit. -/
inductive Node where
  | null
  | bool (value : Bool)
  | number (value : Number)
  | infinite
  | string (value : String)
  | unfit
  | loose (text : String) (plain : Bool) (tag : Option String)
  | sequence (items : List Node) (ending : Option Fault)
  | mapping (fields : List (Node × Node)) (ending : Option Fault)
  | marked (inner : Node)
  | deep (inner : Node)
  | fault (fault : Fault)
deriving Repr, Inhabited

namespace Node

/-- No fault at the end, or the error it causes for a reading. -/
def closed : Option Fault → Except DecodeError Unit
  | none => .ok ()
  | some found => .error found.read.error

/-- No fault at the end, or the error it causes for a reading that skips. -/
def closedSkipped : Option Fault → Except DecodeError Unit
  | none => .ok ()
  | some found => .error found.skipped.error

/-- The value of a scalar by its meaning. -/
def ofMeaning (text : String) : ScalarMeaning → Except DecodeError Node
  | .null => .ok .null
  | .bool value => .ok (.bool value)
  | .int value => .ok (.number (.int value))
  | .double value => .ok (.number (.double value))
  | .infinite => .ok .infinite
  | .vast => .error .wrongType
  | .text => .ok (.string text)

/-- Whether a type mark belongs to an application: it starts with `!`. -/
def isLocalTag (tag : String) : Bool :=
  tag.toList.head? == some '!'

/-- The value of a YAML scalar that nothing is known about. -/
def settleScalar (text : String) (plain : Bool) (tag : Option String) : Except DecodeError Node :=
  match tag with
  | none => if plain then ofMeaning text (Scalar.meaning text) else .ok (.string text)
  | some name =>
      if isLocalTag name then .error .wrongType
      else
        match Scalar.taggedMeaning? name text with
        | some found => ofMeaning text found
        | none => .error .wrongValue

mutual

/-- Reads past a value without looking at it. Numbers beyond range, broken
surrogate pairs and deep nesting go unnoticed. -/
def skip : Node → Except DecodeError Unit
  | .null | .bool _ | .number _ | .infinite | .string _ | .unfit | .loose .. => .ok ()
  | .sequence items ending => do
      skipItems items
      closedSkipped ending
  | .mapping fields ending => do
      skipFields fields
      closedSkipped ending
  | .marked inner | .deep inner => skip inner
  | .fault found => .error found.skipped.error

def skipItems : List Node → Except DecodeError Unit
  | [] => .ok ()
  | item :: rest => do
      skip item
      skipItems rest

def skipFields : List (Node × Node) → Except DecodeError Unit
  | [] => .ok ()
  | (_, value) :: rest => do
      skip value
      skipFields rest

end

mutual

/-- Settles a value: every scalar gets the value it has by itself, and the
result holds no faults, loose scalars or marks. Values are settled before it is
known what they are read as. -/
def settle : Node → Except DecodeError Node
  | .null => .ok .null
  | .bool value => .ok (.bool value)
  | .number value => .ok (.number value)
  | .infinite => .ok .infinite
  | .string value => .ok (.string value)
  | .unfit => .error .malformed
  | .loose text plain tag => settleScalar text plain tag
  | .sequence items ending => do
      let settled ← settleItems items
      closed ending
      .ok (.sequence settled none)
  | .mapping fields ending => do
      let settled ← settleFields fields
      closed ending
      .ok (.mapping settled none)
  | .marked _ => .error .wrongType
  | .deep _ => .error .malformed
  | .fault found => .error found.read.error

def settleItems : List Node → Except DecodeError (List Node)
  | [] => .ok []
  | item :: rest => do
      let settled ← settle item
      .ok (settled :: (← settleItems rest))

def settleFields : List (Node × Node) → Except DecodeError (List (Node × Node))
  | [] => .ok []
  | (key, value) :: rest => do
      let key ← settle key
      let value ← settle value
      .ok ((key, value) :: (← settleFields rest))

end

/-- The text of a key or of a text field. A loose scalar gives its text,
whatever it would mean by itself. -/
def text : Node → Except DecodeError String
  | .string value => .ok value
  | .loose value _ _ => .ok value
  | .unfit => .error .malformed
  | .fault found => .error found.read.error
  | _ => .error .wrongType

mutual

/-- Reads a value as JSON. Of several members with one name the last one stays;
numbers without a JSON literal become null. -/
def toJson : Node → Except DecodeError Json
  | .null | .infinite => .ok .null
  | .bool value => .ok (.bool value)
  | .number value => .ok (.number value)
  | .string value => .ok (.string value)
  | .unfit => .error .malformed
  | .loose text plain tag => do
      match ← settleScalar text plain tag with
      | .bool value => .ok (.bool value)
      | .number value => .ok (.number value)
      | .string value => .ok (.string value)
      | _ => .ok .null
  | .sequence items ending => do
      let values ← toJsonItems items
      closed ending
      .ok (.array values)
  | .mapping fields ending => do
      let members ← toJsonFields fields
      closed ending
      .ok (Json.ofFields members)
  | .marked _ => .error .wrongType
  | .deep _ => .error .malformed
  | .fault found => .error found.read.error

def toJsonItems : List Node → Except DecodeError (List Json)
  | [] => .ok []
  | item :: rest => do
      let value ← toJson item
      .ok (value :: (← toJsonItems rest))

def toJsonFields : List (Node × Node) → Except DecodeError (List (String × Json))
  | [] => .ok []
  | (key, value) :: rest => do
      let key ← text key
      let value ← toJson value
      .ok ((key, value) :: (← toJsonFields rest))

end

mutual

/-- The tree of a JSON value: members in their order, no faults. -/
def ofJson : Json → Node
  | .null => .null
  | .bool value => .bool value
  | .number value => .number value
  | .string value => .string value
  | .array items => .sequence (ofJsonItems items) none
  | .object members => .mapping (ofJsonMembers members) none

def ofJsonItems : List Json → List Node
  | [] => []
  | item :: rest => ofJson item :: ofJsonItems rest

def ofJsonMembers : List (String × Json) → List (Node × Node)
  | [] => []
  | (key, value) :: rest => (.string key, ofJson value) :: ofJsonMembers rest

end

end Node

end RequestFlow.Document
