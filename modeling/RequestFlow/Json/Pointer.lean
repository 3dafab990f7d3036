import RequestFlow.Json.Basic
import RequestFlow.Text.Ascii
import RequestFlow.Text.Split

/-!
Contract: pointers into JSON values.

Owns: the check of a pointer's text, its segments with the escapes undone, and
the walk along them, which names the first segment that leads nowhere.

A pointer may carry the mark `#` of a URI fragment, which is dropped. An array
index is a decimal number; a plus sign and leading zeros are let through.
-/

namespace RequestFlow

inductive PointerError where
  | noLeadingSlash
  | badEscape
  | notFound (pointer segment : String)
deriving DecidableEq, Repr

def PointerError.message : PointerError → String
  | .noLeadingSlash => "json pointer must start with '/'"
  | .badEscape => "json pointer contains invalid escape (only ~0 and ~1 are allowed)"
  | .notFound pointer segment =>
      "json pointer " ++ pointer ++ " not found (missing segment '" ++ segment ++ "')"

/-- A checked pointer text, without the fragment mark. -/
structure Pointer where
  text : List Char
deriving DecidableEq, Repr

namespace Pointer

/-- Every tilde is followed by a zero or a one. -/
def escapesAreValid : List Char → Bool
  | [] => true
  | '~' :: '0' :: rest => escapesAreValid rest
  | '~' :: '1' :: rest => escapesAreValid rest
  | '~' :: _ => false
  | _ :: rest => escapesAreValid rest

def ofChars (text : List Char) : Except PointerError Pointer :=
  match text with
  | [] => .ok ⟨[]⟩
  | '/' :: _ => if escapesAreValid text then .ok ⟨text⟩ else .error .badEscape
  | _ => .error .noLeadingSlash

def parse (text : String) : Except PointerError Pointer :=
  ofChars (Text.dropMark '#' text.toList)

def toString (pointer : Pointer) : String :=
  String.ofList pointer.text

/-- Undoes the escapes of one segment. -/
def unescape : List Char → List Char
  | [] => []
  | '~' :: '0' :: rest => '~' :: unescape rest
  | '~' :: '1' :: rest => '/' :: unescape rest
  | char :: rest => char :: unescape rest

/-- Escapes one segment. -/
def escape : List Char → List Char
  | [] => []
  | '~' :: rest => '~' :: '0' :: escape rest
  | '/' :: rest => '~' :: '1' :: escape rest
  | char :: rest => char :: escape rest

/-- The segments of a pointer, from the outside in. -/
def segments (pointer : Pointer) : List String :=
  ((Text.pieces (· == '/') pointer.text).drop 1).map fun piece => String.ofList (unescape piece)

/-- The number that an array segment writes. -/
def index? (segment : String) : Option Nat :=
  let digits := Text.dropMark '+' segment.toList
  if !digits.isEmpty && digits.all Text.isDigit then some (Text.digitsValue digits) else none

/-- One step into a value. -/
def step? (value : Json) (segment : String) : Option Json :=
  match value with
  | .object _ => value.member? segment
  | .array _ => do value.element? (← index? segment)
  | _ => none

/-- Walks along segments and names the first one that has no value. -/
def walk (pointer : Pointer) : List String → Json → Except PointerError Json
  | [], value => .ok value
  | segment :: rest, value =>
      match step? value segment with
      | some next => walk pointer rest next
      | none => .error (.notFound pointer.toString segment)

def lookup (pointer : Pointer) (value : Json) : Except PointerError Json :=
  walk pointer pointer.segments value

end Pointer

end RequestFlow
