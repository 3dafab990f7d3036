import RequestFlow.Document.Decode
import RequestFlow.Proofs.Dict

/-!
Contract: readings whose results are read again as they were, once they are written.

Owns: the nodes of JSON documents; the law of a reading and a writing; and this law for
texts, numbers, free JSON values, optional values, lists, dictionaries and words.

Does not own: the law for records (`Proofs.Document.Record`).

The law speaks of values that were read, and not of all values: a free JSON value has its
members in order only because it was read, and an optional one is never a present null.
-/

namespace RequestFlow

/-! ## Results that may fail -/

/-- A computation goes through when its first step does, and the rest with the result. -/
theorem except_bind_eq_ok_iff {ε α β : Type} {first : Except ε α} {next : α → Except ε β}
    {result : β} :
    (first >>= next) = .ok result ↔ ∃ value, first = .ok value ∧ next value = .ok result := by
  cases first with
  | error error =>
      constructor
      · intro failed
        cases failed
      · rintro ⟨value, failed, -⟩
        cases failed
  | ok value =>
      constructor
      · intro done
        exact ⟨value, rfl, done⟩
      · rintro ⟨other, same, done⟩
        cases same
        exact done

theorem mapError_eq_ok_iff {ε δ α : Type} {result : Except ε α} {change : ε → δ} {value : α} :
    result.mapError change = .ok value ↔ result = .ok value := by
  cases result with
  | error error =>
      constructor
      · intro failed
        cases failed
      · intro failed
        cases failed
  | ok other =>
      constructor
      · intro done
        cases done
        rfl
      · intro done
        cases done
        rfl

theorem except_eq_ok_of_toOption {ε α : Type} {result : Except ε α} {value : α}
    (found : result.toOption = some value) : result = .ok value := by
  cases result with
  | error error => cases found
  | ok other =>
      cases found
      rfl

section MapM

variable {ε α β : Type}

/-- Every result of a list comes of an item. -/
theorem exists_of_mem_mapM {function : α → Except ε β} {items : List α} {values : List β}
    (mapped : items.mapM function = .ok values) :
    ∀ value ∈ values, ∃ item ∈ items, function item = .ok value := by
  induction items generalizing values with
  | nil =>
      cases mapped
      exact fun value member => nomatch member
  | cons item rest inductionHypothesis =>
      rw [List.mapM_cons] at mapped
      obtain ⟨first, done, mapped⟩ := except_bind_eq_ok_iff.1 mapped
      obtain ⟨others, restMapped, mapped⟩ := except_bind_eq_ok_iff.1 mapped
      cases mapped
      refine List.forall_mem_cons.2 ⟨⟨item, List.mem_cons_self, done⟩, fun value member => ?_⟩
      obtain ⟨other, among, otherDone⟩ := inductionHypothesis restMapped value member
      exact ⟨other, List.mem_cons_of_mem _ among, otherDone⟩

theorem mapM_map_eq_ok {γ : Type} {write : α → β} {read : β → Except ε γ} {result : α → γ}
    {items : List α} (each : ∀ item ∈ items, read (write item) = .ok (result item)) :
    (items.map write).mapM read = .ok (items.map result) := by
  induction items with
  | nil => rfl
  | cons item rest inductionHypothesis =>
      obtain ⟨first, others⟩ := List.forall_mem_cons.1 each
      rw [List.map_cons, List.mapM_cons, first, inductionHypothesis others, List.map_cons]
      rfl

/-- A list is got back when each of its items is. -/
theorem mapM_map_eq_self {write : α → β} {read : β → Except ε α} {items : List α}
    (each : ∀ item ∈ items, read (write item) = .ok item) :
    (items.map write).mapM read = .ok items := by
  rw [mapM_map_eq_ok each, List.map_id']

end MapM

/-! ## JSON values -/

/-- What holds of a JSON value when it holds of its parts holds of all. -/
@[elab_as_elim]
theorem Json.induct {motive : Json → Prop} (null : motive .null)
    (bool : ∀ value, motive (.bool value)) (number : ∀ value, motive (.number value))
    (string : ∀ value, motive (.string value))
    (array : ∀ items, (∀ item ∈ items, motive item) → motive (.array items))
    (object : ∀ members : List (String × Json), (∀ member ∈ members, motive member.2) →
      motive (.object members)) : (value : Json) → motive value
  | .null => null
  | .bool value => bool value
  | .number value => number value
  | .string value => string value
  | .array items => array items (go items)
  | .object members => object members (goMembers members)
where
  go : (items : List Json) → ∀ item ∈ items, motive item
    | [] => by simp
    | item :: rest => List.forall_mem_cons.2
        ⟨induct null bool number string array object item, go rest⟩
  goMembers : (members : List (String × Json)) → ∀ member ∈ members, motive member.2
    | [] => by simp
    | (_, value) :: rest => List.forall_mem_cons.2
        ⟨induct null bool number string array object value, goMembers rest⟩

namespace Document

namespace Node

theorem ofJsonItems_eq_map (items : List Json) : ofJsonItems items = items.map ofJson := by
  induction items with
  | nil => rfl
  | cons item rest inductionHypothesis =>
      rw [ofJsonItems, inductionHypothesis, List.map_cons]

/-- The field of a mapping for the member of an object. -/
def ofMember (member : String × Json) : Node × Node := (.string member.1, ofJson member.2)

theorem ofJsonMembers_eq_map (members : List (String × Json)) :
    ofJsonMembers members = members.map ofMember := by
  induction members with
  | nil => rfl
  | cons member rest inductionHypothesis =>
      rw [ofJsonMembers, inductionHypothesis, List.map_cons, ofMember]

theorem ofJson_array (items : List Json) :
    ofJson (.array items) = .sequence (items.map ofJson) none := by
  rw [ofJson, ofJsonItems_eq_map]

theorem ofJson_object (members : List (String × Json)) :
    ofJson (.object members) = .mapping (members.map ofMember) none := by
  rw [ofJson, ofJsonMembers_eq_map]

/-! ## Nodes of JSON documents -/

/-- A node as JSON texts and JSON values give it. Every number in it has a literal, and no
scalar in it is loose. -/
inductive FromJson : Node → Prop where
  | null : FromJson .null
  | bool (value : Bool) : FromJson (.bool value)
  | number (value : Number) : FromJson (.number value)
  | string (value : String) : FromJson (.string value)
  | unfit : FromJson .unfit
  | sequence {items : List Node} (ending : Option Fault)
      (each : ∀ item ∈ items, FromJson item) : FromJson (.sequence items ending)
  | mapping {fields : List (Node × Node)} (ending : Option Fault)
      (each : ∀ field ∈ fields, FromJson field.2) : FromJson (.mapping fields ending)
  | marked {inner : Node} (plain : FromJson inner) : FromJson (.marked inner)
  | deep {inner : Node} (plain : FromJson inner) : FromJson (.deep inner)
  | fault (found : Fault) : FromJson (.fault found)

theorem fromJson_ofJson (value : Json) : (ofJson value).FromJson := by
  induction value using Json.induct with
  | null => exact .null
  | bool value => exact .bool value
  | number value => exact .number value
  | string value => exact .string value
  | array items each =>
      rw [ofJson_array]
      exact .sequence _ (List.forall_mem_map.2 each)
  | object members each =>
      rw [ofJson_object]
      exact .mapping _ (List.forall_mem_map.2 each)

/-! ## Settling -/

theorem settleItems_eq_mapM (items : List Node) : settleItems items = items.mapM settle := by
  induction items with
  | nil => rfl
  | cons item rest inductionHypothesis =>
      rw [settleItems, inductionHypothesis, List.mapM_cons]
      rfl

def settleField (field : Node × Node) : Except DecodeError (Node × Node) := do
  let key ← settle field.1
  let value ← settle field.2
  .ok (key, value)

theorem settleFields_eq_mapM (fields : List (Node × Node)) :
    settleFields fields = fields.mapM settleField := by
  induction fields with
  | nil => rfl
  | cons field rest inductionHypothesis =>
      rw [settleFields, inductionHypothesis, List.mapM_cons, settleField]
      simp only [bind_assoc]
      rfl

/-- The tree of a JSON value is settled. -/
theorem settle_ofJson (value : Json) : (ofJson value).settle = .ok (ofJson value) := by
  induction value using Json.induct with
  | null | bool | number | string => rw [ofJson, settle]
  | array items each =>
      rw [ofJson_array, settle, settleItems_eq_mapM, mapM_map_eq_ok each]
      rfl
  | object members each =>
      have settled : ∀ member ∈ members, settleField (ofMember member) = .ok (ofMember member) := by
        intro member among
        rw [settleField, ofMember, settle, each member among]
        rfl
      rw [ofJson_object, settle, settleFields_eq_mapM, mapM_map_eq_ok settled]
      rfl

theorem FromJson.settle {node settled : Node} (plain : node.FromJson)
    (done : node.settle = .ok settled) : settled.FromJson := by
  induction plain generalizing settled with
  | null | bool | number | string =>
      rw [Node.settle] at done
      cases done
      constructor
  | unfit | marked | deep | fault =>
      rw [Node.settle] at done
      cases done
  | sequence ending each inductionHypothesis =>
      rw [Node.settle, settleItems_eq_mapM] at done
      obtain ⟨items, mapped, done⟩ := except_bind_eq_ok_iff.1 done
      obtain ⟨⟨⟩, -, done⟩ := except_bind_eq_ok_iff.1 done
      cases done
      refine .sequence _ fun value member => ?_
      obtain ⟨item, among, itemDone⟩ := exists_of_mem_mapM mapped value member
      exact inductionHypothesis item among itemDone
  | mapping ending each inductionHypothesis =>
      rw [Node.settle, settleFields_eq_mapM] at done
      obtain ⟨fields, mapped, done⟩ := except_bind_eq_ok_iff.1 done
      obtain ⟨⟨⟩, -, done⟩ := except_bind_eq_ok_iff.1 done
      cases done
      refine .mapping _ fun pair member => ?_
      obtain ⟨field, among, fieldDone⟩ := exists_of_mem_mapM mapped pair member
      obtain ⟨key, -, fieldDone⟩ := except_bind_eq_ok_iff.1 fieldDone
      obtain ⟨value, valueDone, fieldDone⟩ := except_bind_eq_ok_iff.1 fieldDone
      cases fieldDone
      exact inductionHypothesis field among valueDone

/-! ## Skipping -/

theorem skipItems_eq_ok {items : List Node} (each : ∀ item ∈ items, item.skip = .ok ()) :
    skipItems items = .ok () := by
  induction items with
  | nil => rfl
  | cons item rest inductionHypothesis =>
      obtain ⟨first, others⟩ := List.forall_mem_cons.1 each
      rw [skipItems, first, inductionHypothesis others]
      rfl

theorem skipFields_eq_ok {fields : List (Node × Node)}
    (each : ∀ field ∈ fields, field.2.skip = .ok ()) : skipFields fields = .ok () := by
  induction fields with
  | nil => rfl
  | cons field rest inductionHypothesis =>
      obtain ⟨first, others⟩ := List.forall_mem_cons.1 each
      rw [skipFields, first, inductionHypothesis others]
      rfl

/-- Nothing in the tree of a JSON value stops a reading that skips it. -/
theorem skip_ofJson (value : Json) : (ofJson value).skip = .ok () := by
  induction value using Json.induct with
  | null | bool | number | string => rw [ofJson, skip]
  | array items each =>
      rw [ofJson_array, skip, skipItems_eq_ok (List.forall_mem_map.2 each)]
      rfl
  | object members each =>
      rw [ofJson_object, skip, skipFields_eq_ok (List.forall_mem_map.2 each)]
      rfl

/-! ## Free JSON values -/

/-- A field with its name, the value read in some way. -/
def readField {α : Type} (read : Node → Except DecodeError α) (field : Node × Node) :
    Except DecodeError (String × α) := do
  let name ← field.1.text
  let value ← read field.2
  .ok (name, value)

theorem read_of_readField {α : Type} {read : Node → Except DecodeError α}
    {field : Node × Node} {named : String × α} (done : readField read field = .ok named) :
    read field.2 = .ok named.2 := by
  obtain ⟨name, -, done⟩ := except_bind_eq_ok_iff.1 done
  obtain ⟨value, valueRead, done⟩ := except_bind_eq_ok_iff.1 done
  cases done
  exact valueRead

theorem readField_ofMember {α : Type} {read : Node → Except DecodeError α}
    {member : String × Json} {value : α} (done : read (ofJson member.2) = .ok value) :
    readField read (ofMember member) = .ok (member.1, value) := by
  rw [readField, ofMember, done]
  rfl

theorem toJsonItems_eq_mapM (items : List Node) : toJsonItems items = items.mapM toJson := by
  induction items with
  | nil => rfl
  | cons item rest inductionHypothesis =>
      rw [toJsonItems, inductionHypothesis, List.mapM_cons]
      rfl

theorem toJsonFields_eq_mapM (fields : List (Node × Node)) :
    toJsonFields fields = fields.mapM (readField toJson) := by
  induction fields with
  | nil => rfl
  | cons field rest inductionHypothesis =>
      rw [toJsonFields, inductionHypothesis, List.mapM_cons, readField]
      simp only [bind_assoc]
      rfl

/-- A value that was read is read again. -/
theorem FromJson.toJson_ofJson {node : Node} {value : Json} (plain : node.FromJson)
    (done : node.toJson = .ok value) : (ofJson value).toJson = .ok value := by
  induction plain generalizing value with
  | null | bool | number | string =>
      rw [toJson] at done
      cases done
      rw [ofJson, toJson]
  | unfit | marked | deep | fault =>
      rw [toJson] at done
      cases done
  | sequence ending each inductionHypothesis =>
      rw [toJson, toJsonItems_eq_mapM] at done
      obtain ⟨values, mapped, done⟩ := except_bind_eq_ok_iff.1 done
      obtain ⟨⟨⟩, -, done⟩ := except_bind_eq_ok_iff.1 done
      cases done
      have again : ∀ value ∈ values, (ofJson value).toJson = .ok value := by
        intro value member
        obtain ⟨item, among, read⟩ := exists_of_mem_mapM mapped value member
        exact inductionHypothesis item among read
      rw [ofJson_array, toJson, toJsonItems_eq_mapM, mapM_map_eq_self again]
      rfl
  | mapping ending each inductionHypothesis =>
      rw [toJson, toJsonFields_eq_mapM] at done
      obtain ⟨members, mapped, done⟩ := except_bind_eq_ok_iff.1 done
      obtain ⟨⟨⟩, -, done⟩ := except_bind_eq_ok_iff.1 done
      cases done
      have again : ∀ member ∈ (Dict.ofList members).entries,
          readField toJson (ofMember member) = .ok member := by
        intro member among
        obtain ⟨field, fieldAmong, read⟩ :=
          exists_of_mem_mapM mapped member (Dict.mem_of_mem_ofList among)
        exact readField_ofMember (inductionHypothesis field fieldAmong (read_of_readField read))
      rw [Json.ofFields, ofJson_object, toJson, toJsonFields_eq_mapM, mapM_map_eq_self again]
      show Except.ok (Json.ofFields (Dict.ofList members).entries) = _
      rw [Json.ofFields, Dict.ofList_entries]

theorem FromJson.toJson_ne_null {node : Node} {value : Json} (plain : node.FromJson)
    (isValue : node ≠ .null) (done : node.toJson = .ok value) : value ≠ .null := by
  cases plain with
  | null => exact absurd rfl isValue
  | bool | number | string =>
      rw [toJson] at done
      cases done
      exact Json.noConfusion
  | unfit | marked | deep | fault =>
      rw [toJson] at done
      cases done
  | sequence | mapping =>
      rw [toJson] at done
      obtain ⟨parts, -, done⟩ := except_bind_eq_ok_iff.1 done
      obtain ⟨⟨⟩, -, done⟩ := except_bind_eq_ok_iff.1 done
      cases done
      exact Json.noConfusion

end Node

/-! ## Readings and writings -/

open Decode

theorem Node.FromJson.openSequence {node : Node} {items : List Node} {ending : Option Fault}
    (plain : node.FromJson) (opened : Decode.openSequence node = .ok (items, ending)) :
    ∀ item ∈ items, item.FromJson := by
  cases plain with
  | sequence _ each =>
      cases opened
      exact each
  | marked plain =>
      cases plain with
      | sequence _ each =>
          cases opened
          exact each
      | _ => cases opened
  | _ => cases opened

theorem Node.FromJson.openMapping {node : Node} {fields : List (Node × Node)}
    {ending : Option Fault} (plain : node.FromJson)
    (opened : Decode.openMapping node = .ok (fields, ending)) :
    ∀ field ∈ fields, field.2.FromJson := by
  cases plain with
  | mapping _ each =>
      cases opened
      exact each
  | marked plain =>
      cases plain with
      | mapping _ each =>
          cases opened
          exact each
      | _ => cases opened
  | _ => cases opened

/-- A written value is read as it was. -/
def Recovers {α : Type} (decode : Decoder α) (encode : α → Json) (value : α) : Prop :=
  decode .tree (Node.ofJson (encode value)) = .ok value

/-- What is read from a JSON document, in whatever dialect, is read again once it is
written. -/
def RoundTrips {α : Type} (decode : Decoder α) (encode : α → Json) : Prop :=
  ∀ (dialect : Dialect) (node : Node) (value : α), node.FromJson →
    decode dialect node = .ok value → Recovers decode encode value

namespace RoundTrips

theorem string : RoundTrips Decode.string Json.string := by
  intro dialect node value plain done
  rfl

theorem bool : RoundTrips Decode.bool Json.bool := by
  intro dialect node value plain done
  rfl

theorem json : RoundTrips Decode.json id := by
  intro dialect node value plain done
  exact plain.toJson_ofJson done

theorem natural (bound : Nat) : RoundTrips (Decode.natural bound) Json.ofNat := by
  intro dialect node value plain done
  have bounded : value ≤ bound := by
    cases plain with
    | number number =>
        cases number with
        | int read =>
            simp only [Decode.natural] at done
            split at done
            · next within =>
              cases done
              omega
            · cases done
        | double => cases done
    | _ => cases done
  show (if 0 ≤ (value : Int) ∧ (value : Int) ≤ bound then
    Except.ok (value : Int).toNat else Except.error DecodeError.wrongValue) = .ok value
  rw [if_pos ⟨Int.natCast_nonneg value, Int.ofNat_le.2 bounded⟩, Int.toNat_natCast]

/-- A word is read again when the choices have it. -/
theorem choice {α : Type} {choices : List (String × α)} {word : α → String}
    (listed : ∀ value, choices.lookup (word value) = some value) :
    RoundTrips (Decode.choice choices) fun value => .string (word value) := by
  intro dialect node value plain done
  show choose choices (word value) = .ok value
  rw [choose, listed]

section Containers

variable {α : Type} {decode : Decoder α} {encode : α → Json}

theorem list (item : RoundTrips decode encode) :
    RoundTrips (Decode.list decode) (Json.ofList encode) := by
  intro dialect node values plain done
  obtain ⟨⟨items, ending⟩, opened, done⟩ := except_bind_eq_ok_iff.1 done
  obtain ⟨read, mapped, done⟩ := except_bind_eq_ok_iff.1 done
  obtain ⟨⟨⟩, -, done⟩ := except_bind_eq_ok_iff.1 done
  cases done
  have again : ∀ value ∈ values, decode .tree (Node.ofJson (encode value)) = .ok value := by
    intro value member
    obtain ⟨node, among, read⟩ := exists_of_mem_mapM mapped value member
    exact item _ _ _ (plain.openSequence opened node among) read
  have reread : (values.map (Node.ofJson ∘ encode)).mapM (decode .tree) = .ok values :=
    mapM_map_eq_self again
  rw [Recovers, Json.ofList, Node.ofJson_array, List.map_map]
  exact except_bind_eq_ok_iff.2 ⟨(_, none), rfl, except_bind_eq_ok_iff.2 ⟨values, reread, rfl⟩⟩

theorem namedFields_eq_mapM (dialect : Dialect) (fields : List (Node × Node)) :
    namedFields decode dialect fields = fields.mapM (Node.readField (decode dialect)) := by
  induction fields with
  | nil => rfl
  | cons field rest inductionHypothesis =>
      rw [namedFields, inductionHypothesis, List.mapM_cons, Node.readField]
      simp only [bind_assoc]
      rfl

theorem dict (field : RoundTrips decode encode) :
    RoundTrips (Decode.dict decode) (Json.ofDictWith encode) := by
  intro dialect node values plain done
  obtain ⟨⟨fields, ending⟩, opened, done⟩ := except_bind_eq_ok_iff.1 done
  obtain ⟨read, mapped, done⟩ := except_bind_eq_ok_iff.1 done
  obtain ⟨⟨⟩, -, done⟩ := except_bind_eq_ok_iff.1 done
  cases done
  rw [namedFields_eq_mapM] at mapped
  generalize same : Dict.ofList read = values
  have again : ∀ entry ∈ values.entries, Node.readField (decode .tree)
      (Node.ofMember (entry.1, encode entry.2)) = .ok entry := by
    subst same
    intro entry among
    obtain ⟨node, nodeAmong, done⟩ :=
      exists_of_mem_mapM mapped entry (Dict.mem_of_mem_ofList among)
    exact Node.readField_ofMember
      (field _ _ _ (plain.openMapping opened node nodeAmong) (Node.read_of_readField done))
  have reread : namedFields decode .tree
      ((values.entries.map fun entry => (entry.1, encode entry.2)).map Node.ofMember) =
        .ok values.entries := by
    rw [namedFields_eq_mapM, List.map_map]
    exact mapM_map_eq_self again
  rw [Recovers, Json.ofDictWith, Node.ofJson_object]
  refine except_bind_eq_ok_iff.2 ⟨(_, none), rfl,
    except_bind_eq_ok_iff.2 ⟨values.entries, reread, ?_⟩⟩
  show Except.ok (Dict.ofList values.entries) = _
  rw [Dict.ofList_entries]

/-- Null is read as an absent value, and anything else as a present one. -/
theorem option_eq_ok {dialect : Dialect} {node : Node} {value : Option α}
    (plain : node.FromJson) (done : Decode.option decode dialect node = .ok value) :
    value = none ∨ ∃ present, value = some present ∧ node ≠ .null ∧
      decode dialect node = .ok present := by
  have read : ∀ result : Except DecodeError α, result.map some = .ok value →
      ∃ present, value = some present ∧ result = .ok present := by
    intro result mapped
    cases result with
    | error => cases mapped
    | ok present =>
        cases mapped
        exact ⟨present, rfl, rfl⟩
  cases plain with
  | null =>
      cases done
      exact .inl rfl
  | _ =>
      obtain ⟨present, same, found⟩ := read _ done
      exact .inr ⟨present, same, Node.noConfusion, found⟩

theorem option_ofJson {value : Json} (notNull : value ≠ .null) :
    Decode.option decode .tree (Node.ofJson value) =
      (decode .tree (Node.ofJson value)).map some := by
  cases value with
  | null => exact absurd rfl notNull
  | _ => rfl

/-- An optional value must not be written as null when it is present. -/
theorem option (present : RoundTrips decode encode)
    (notNull : ∀ (dialect : Dialect) (node : Node) (value : α), node.FromJson → node ≠ .null →
      decode dialect node = .ok value → encode value ≠ .null) :
    RoundTrips (Decode.option decode) (Json.ofOption encode) := by
  intro dialect node value plain done
  rcases option_eq_ok plain done with rfl | ⟨found, rfl, isValue, done⟩
  · rfl
  · rw [Recovers, Json.ofOption, option_ofJson (notNull _ _ _ plain isValue done),
      show decode .tree _ = _ from present _ _ _ plain done]
    rfl

end Containers

end RoundTrips

end Document

end RequestFlow
