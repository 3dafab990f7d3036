import RequestFlow.Document.JsonText
import RequestFlow.Proofs.Document.RoundTrip

/-!
Contract: what stands in the tree of a JSON text.

Owns: that every text, whatever is wrong with it, is parsed as the node of a JSON document.
-/

namespace RequestFlow.Document.JsonText

theorem fromJson_readWord {node : Node} (plain : node.FromJson) (word text : List Char) :
    (readWord node word text).node.FromJson := by
  induction word generalizing text with
  | nil => exact plain
  | cons expected word inductionHypothesis =>
      cases text with
      | nil => exact .fault _
      | cons char rest =>
          rw [readWord]
          split
          · exact inductionHypothesis rest
          · exact .fault _

theorem fromJson_readNumber (negative : Bool) (text : List Char) :
    (readNumber negative text).node.FromJson := by
  unfold readNumber
  split
  · exact .fault _
  · split
    · exact .number _
    · exact .unfit

theorem fromJson_readString (text : List Char) : (readString text).node.FromJson := by
  unfold readString
  split
  · split
    · exact .string _
    · exact .unfit
  · exact .fault _
  · split <;> exact .fault _

theorem fromJson_limitDepth {reading : Reading} (plain : reading.node.FromJson) (depth : Nat) :
    (limitDepth depth reading).node.FromJson := by
  unfold limitDepth
  split
  · exact .deep plain
  · exact plain

/-! ## Containers

A value is read with its containers, and each of them reads values again, always with less
fuel. So that what holds of the three readings is shown of all of them at once.
-/

def ValuePlain (fuel : Nat) : Prop :=
  ∀ depth text, (readValue fuel depth text).node.FromJson

def ItemsPlain (fuel : Nat) : Prop :=
  ∀ depth first text, ∀ item ∈ (readItems fuel depth first text).1, item.FromJson

def FieldsPlain (fuel : Nat) : Prop :=
  ∀ depth first text, ∀ field ∈ (readFields fuel depth first text).1, field.2.FromJson

variable {fuel : Nat}

theorem valuePlain_succ (items : ItemsPlain fuel) (fields : FieldsPlain fuel) :
    ValuePlain (fuel + 1) := by
  intro depth text
  unfold readValue
  split
  · exact .fault _
  · exact fromJson_readWord .null _ _
  · exact fromJson_readWord (.bool _) _ _
  · exact fromJson_readWord (.bool _) _ _
  · exact fromJson_readString _
  · exact fromJson_readNumber _ _
  · exact fromJson_limitDepth (.sequence _ (items _ _ _)) _
  · exact fromJson_limitDepth (.mapping _ (fields _ _ _)) _
  · split
    · exact fromJson_readNumber _ _
    · exact .fault _

theorem itemsPlain_succ (value : ValuePlain fuel) (items : ItemsPlain fuel) :
    ItemsPlain (fuel + 1) := by
  intro depth first text
  have none : ∀ item ∈ ([] : List Node), item.FromJson := List.forall_mem_nil _
  have fault : ∀ found, ∀ item ∈ [Node.fault found], item.FromJson := fun found =>
    List.forall_mem_singleton.2 (.fault found)
  unfold readItems
  extract_lets item
  have plain : ∀ text, ∀ found ∈ (item text).1, found.FromJson := by
    intro text
    simp only [item]
    split
    · exact List.forall_mem_singleton.2 (value _ _)
    · exact List.forall_mem_cons.2 ⟨value _ _, items _ _ _⟩
  split
  · exact none
  · exact none
  · split
    · exact plain _
    · split
      · exact fault _
      · exact fault _
      · exact plain _
  · split
    · exact plain _
    · exact none

theorem fieldsPlain_succ (value : ValuePlain fuel) (fields : FieldsPlain fuel) :
    FieldsPlain (fuel + 1) := by
  intro depth first text
  have none : ∀ field ∈ ([] : List (Node × Node)), field.2.FromJson := List.forall_mem_nil _
  have fault : ∀ (key : Node) found, ∀ field ∈ [(key, Node.fault found)], field.2.FromJson :=
    fun key found => List.forall_mem_singleton.2 (.fault found)
  unfold readFields
  extract_lets field
  have plain : ∀ text, ∀ found ∈ (field text).1, found.2.FromJson := by
    intro text
    simp only [field]
    split
    · split <;> exact none
    · split
      · exact fault _ _
      · split
        · exact List.forall_mem_singleton.2 (value _ _)
        · exact List.forall_mem_cons.2 ⟨value _ _, fields _ _ _⟩
      · exact fault _ _
  split
  · exact none
  · exact none
  · split
    · exact none
    · split
      · exact none
      · exact plain _
      · exact none
  · split
    · exact plain _
    · exact none
  · exact none

theorem fromJson_read (fuel : Nat) : ValuePlain fuel ∧ ItemsPlain fuel ∧ FieldsPlain fuel := by
  induction fuel with
  | zero =>
      exact ⟨fun _ _ => .fault _, fun _ _ _ => List.forall_mem_nil _,
        fun _ _ _ => List.forall_mem_nil _⟩
  | succ fuel inductionHypothesis =>
      obtain ⟨value, items, fields⟩ := inductionHypothesis
      exact ⟨valuePlain_succ items fields, itemsPlain_succ value items,
        fieldsPlain_succ value fields⟩

/-- Whatever is wrong with a text, its tree is that of a JSON document. -/
theorem fromJson_parse (text : String) : (parse text).root.FromJson := by
  have plain := (fromJson_read (2 * text.toList.length + 2)).1 0 text.toList
  unfold parse
  extract_lets chars reading
  split <;> exact plain

end RequestFlow.Document.JsonText
