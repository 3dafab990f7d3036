/-!
Contract: finite maps from text keys, kept in key order.

Owns: `Dict`, an association list whose keys strictly increase, with insertion,
lookup and conversion from arbitrary lists, where the last value of a repeated
key wins. The order law is part of the type, so two dictionaries with the same
entries are equal.

Does not own: any particular value type. JSON objects hold bare lists of fields
and meet this type through `Dict.ofList`.
-/

namespace RequestFlow

/-- Fields in strictly increasing key order. -/
def KeysIncrease {α : Type u} (entries : List (String × α)) : Prop :=
  entries.Pairwise fun left right => left.1 < right.1

/-- Puts a value under a key in an ordered list of fields, replacing an earlier value. -/
def insertField {α : Type u} (key : String) (value : α) :
    List (String × α) → List (String × α)
  | [] => [(key, value)]
  | entry :: rest =>
      if key < entry.1 then (key, value) :: entry :: rest
      else if key = entry.1 then (key, value) :: rest
      else entry :: insertField key value rest

/-- Every key of the changed list is the new key or an old one. -/
theorem mem_insertField {α : Type u} {key : String} {value : α}
    {entries : List (String × α)} {found : String × α}
    (member : found ∈ insertField key value entries) :
    found = (key, value) ∨ found ∈ entries := by
  induction entries with
  | nil => simpa [insertField] using member
  | cons entry rest inductionHypothesis =>
      simp only [insertField] at member
      split at member
      · simpa using member
      · split at member
        · rcases List.mem_cons.1 member with here | later
          · exact .inl here
          · exact .inr (List.mem_cons_of_mem _ later)
        · rcases List.mem_cons.1 member with here | later
          · exact .inr (here ▸ List.mem_cons_self)
          · rcases inductionHypothesis later with new | old
            · exact .inl new
            · exact .inr (List.mem_cons_of_mem _ old)

theorem keysIncrease_insertField {α : Type u} (key : String) (value : α)
    {entries : List (String × α)} (increasing : KeysIncrease entries) :
    KeysIncrease (insertField key value entries) := by
  induction entries with
  | nil => simp [insertField, KeysIncrease]
  | cons entry rest inductionHypothesis =>
      obtain ⟨entryFirst, restIncreases⟩ := List.pairwise_cons.1 increasing
      simp only [insertField]
      split
      case isTrue keyFirst =>
        refine List.pairwise_cons.2 ⟨fun other member => ?_, increasing⟩
        rcases List.mem_cons.1 member with here | later
        · exact here ▸ keyFirst
        · exact String.lt_trans keyFirst (entryFirst other later)
      case isFalse keyNotFirst =>
        split
        case isTrue same =>
          subst same
          exact List.pairwise_cons.2 ⟨entryFirst, restIncreases⟩
        case isFalse different =>
          have entryBeforeKey : entry.1 < key := by
            have keyNotBelow : entry.1 ≤ key := String.not_lt.1 keyNotFirst
            rcases Decidable.em (entry.1 < key) with below | notBelow
            · exact below
            · exact absurd (String.le_antisymm (String.not_lt.1 notBelow) keyNotBelow) different
          refine List.pairwise_cons.2 ⟨fun other member => ?_, inductionHypothesis restIncreases⟩
          rcases mem_insertField member with new | old
          · exact new ▸ entryBeforeKey
          · exact entryFirst other old

/-- A finite map from keys to values; `entries` lists it in key order. -/
structure Dict (α : Type u) where
  entries : List (String × α)
  increasing : KeysIncrease entries

namespace Dict

variable {α : Type u}

@[ext] theorem ext {left right : Dict α} (same : left.entries = right.entries) :
    left = right := by
  cases left; cases right; cases same; rfl

instance [DecidableEq α] : DecidableEq (Dict α) := fun left right =>
  if same : left.entries = right.entries then isTrue (ext same)
  else isFalse fun equal => same (equal ▸ rfl)

instance [Repr α] : Repr (Dict α) := ⟨fun dict depth => reprPrec dict.entries depth⟩

def empty : Dict α := ⟨[], List.Pairwise.nil⟩

instance : EmptyCollection (Dict α) := ⟨empty⟩

instance : Inhabited (Dict α) := ⟨empty⟩

def isEmpty (dict : Dict α) : Bool := dict.entries.isEmpty

def size (dict : Dict α) : Nat := dict.entries.length

def keys (dict : Dict α) : List String := dict.entries.map Prod.fst

def values (dict : Dict α) : List α := dict.entries.map Prod.snd

def get? (dict : Dict α) (key : String) : Option α :=
  dict.entries.lookup key

def contains (dict : Dict α) (key : String) : Bool :=
  (dict.get? key).isSome

def insert (dict : Dict α) (key : String) (value : α) : Dict α :=
  ⟨insertField key value dict.entries, keysIncrease_insertField key value dict.increasing⟩

/-- Removes every entry that fails the test. -/
def filter (dict : Dict α) (keep : String → α → Bool) : Dict α :=
  ⟨dict.entries.filter fun entry => keep entry.1 entry.2,
    dict.increasing.sublist List.filter_sublist⟩

/-- The map of a list of fields; of equal keys the last one stays. -/
def ofList (fields : List (String × α)) : Dict α :=
  fields.foldl (fun dict field => dict.insert field.1 field.2) empty

/-- `base` with the entries of `top` put over it. -/
def overlay (base top : Dict α) : Dict α :=
  top.entries.foldl (fun dict field => dict.insert field.1 field.2) base

/-- Changes the values and keeps the keys. -/
def mapValues {β : Type v} (change : String → α → β) (dict : Dict α) : Dict β :=
  ⟨dict.entries.map fun entry => (entry.1, change entry.1 entry.2), by
    have increasing := dict.increasing
    simpa [KeysIncrease, List.pairwise_map] using increasing⟩

end Dict

end RequestFlow
