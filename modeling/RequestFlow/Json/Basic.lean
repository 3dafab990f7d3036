import RequestFlow.Decimal.Double
import RequestFlow.Dict

/-!
Contract: JSON values.

Owns: numbers (integers of 64 bits stay integers, all else is a double), values,
member lookup, and the passage between objects and `Dict`.

Objects list their members by increasing key. Readers build them through
`Json.ofFields`, which keeps the last of several members with one key, so that a
value never holds two members of the same name.
-/

namespace RequestFlow

open RequestFlow.Decimal (Double)

/-- A JSON number. Readers give integers only between `-2 ^ 63` and `2 ^ 64 - 1`. -/
inductive Number where
  | int (value : Int)
  | double (value : Double)
deriving DecidableEq, Repr

inductive Json where
  | null
  | bool (value : Bool)
  | number (value : Number)
  | string (value : String)
  | array (items : List Json)
  | object (members : List (String × Json))
deriving Repr, Inhabited

namespace Json

mutual

def decEq : (left right : Json) → Decidable (left = right)
  | .null, .null => isTrue rfl
  | .bool left, .bool right =>
      if same : left = right then isTrue (same ▸ rfl)
      else isFalse fun equal => same (Json.bool.inj equal)
  | .number left, .number right =>
      if same : left = right then isTrue (same ▸ rfl)
      else isFalse fun equal => same (Json.number.inj equal)
  | .string left, .string right =>
      if same : left = right then isTrue (same ▸ rfl)
      else isFalse fun equal => same (Json.string.inj equal)
  | .array left, .array right =>
      match decEqItems left right with
      | isTrue same => isTrue (same ▸ rfl)
      | isFalse different => isFalse fun equal => different (Json.array.inj equal)
  | .object left, .object right =>
      match decEqMembers left right with
      | isTrue same => isTrue (same ▸ rfl)
      | isFalse different => isFalse fun equal => different (Json.object.inj equal)
  | .null, .bool _ | .null, .number _ | .null, .string _ | .null, .array _ | .null, .object _
  | .bool _, .null | .bool _, .number _ | .bool _, .string _ | .bool _, .array _
  | .bool _, .object _
  | .number _, .null | .number _, .bool _ | .number _, .string _ | .number _, .array _
  | .number _, .object _
  | .string _, .null | .string _, .bool _ | .string _, .number _ | .string _, .array _
  | .string _, .object _
  | .array _, .null | .array _, .bool _ | .array _, .number _ | .array _, .string _
  | .array _, .object _
  | .object _, .null | .object _, .bool _ | .object _, .number _ | .object _, .string _
  | .object _, .array _ => isFalse fun equal => nomatch equal

def decEqItems : (left right : List Json) → Decidable (left = right)
  | [], [] => isTrue rfl
  | [], _ :: _ | _ :: _, [] => isFalse fun equal => nomatch equal
  | left :: leftRest, right :: rightRest =>
      match decEq left right, decEqItems leftRest rightRest with
      | isTrue first, isTrue rest => isTrue (first ▸ rest ▸ rfl)
      | isFalse different, _ => isFalse fun equal => different (List.cons.inj equal).1
      | _, isFalse different => isFalse fun equal => different (List.cons.inj equal).2

def decEqMembers : (left right : List (String × Json)) → Decidable (left = right)
  | [], [] => isTrue rfl
  | [], _ :: _ | _ :: _, [] => isFalse fun equal => nomatch equal
  | (leftKey, left) :: leftRest, (rightKey, right) :: rightRest =>
      if key : leftKey = rightKey then
        match decEq left right, decEqMembers leftRest rightRest with
        | isTrue first, isTrue rest => isTrue (key ▸ first ▸ rest ▸ rfl)
        | isFalse different, _ =>
            isFalse fun equal => different (Prod.mk.inj (List.cons.inj equal).1).2
        | _, isFalse different => isFalse fun equal => different (List.cons.inj equal).2
      else isFalse fun equal => key (Prod.mk.inj (List.cons.inj equal).1).1

end

instance : DecidableEq Json := decEq

/-- The object with the given fields; of equal keys the last one stays. -/
def ofFields (fields : List (String × Json)) : Json :=
  .object (Dict.ofList fields).entries

/-- The object whose members are the entries of a dictionary. -/
def ofDict (dict : Dict Json) : Json :=
  .object dict.entries

/-- The object that maps each key to the encoding of its value. -/
def ofDictWith {α : Type} (encode : α → Json) (dict : Dict α) : Json :=
  .object (dict.entries.map fun entry => (entry.1, encode entry.2))

/-- The members of an object as a dictionary; `none` for any other value. -/
def toDict? : Json → Option (Dict Json)
  | .object members => some (Dict.ofList members)
  | _ => none

/-- The member of an object with exactly this name. -/
def member? (name : String) : Json → Option Json
  | .object members => members.lookup name
  | _ => none

/-- The element of an array at an index from zero. -/
def element? (index : Nat) : Json → Option Json
  | .array items => items[index]?
  | _ => none

def ofNat (value : Nat) : Json :=
  .number (.int value)

def ofInt (value : Int) : Json :=
  .number (.int value)

def ofList {α : Type} (encode : α → Json) (items : List α) : Json :=
  .array (items.map encode)

def ofStrings (items : List String) : Json :=
  ofList Json.string items

/-- Null for an absent value. -/
def ofOption {α : Type} (encode : α → Json) : Option α → Json
  | none => .null
  | some value => encode value

end Json

end RequestFlow
