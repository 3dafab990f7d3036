import Mathlib.Data.List.Nodup
import RequestFlow.Http.Message
import RequestFlow.Proofs.Dict

/-!
Contract: headers whose names differ in more than the case of letters.

Owns: the equality of names up to case; headers that hold no name twice in two spellings, and
what a lookup finds in them; and the headers after one of them is set.

The map of headers itself tells the spellings of a name apart. That it holds one of them is
kept by the operations on it, each of which looks for the other spellings first.
-/

namespace RequestFlow

namespace Text

theorem sameIgnoringCase_iff {left right : String} :
    sameIgnoringCase left right = true ↔ lower left = lower right := beq_iff_eq

theorem sameIgnoringCase_refl (text : String) : sameIgnoringCase text text = true :=
  sameIgnoringCase_iff.2 rfl

theorem sameIgnoringCase_symm {left right : String} (same : sameIgnoringCase left right = true) :
    sameIgnoringCase right left = true :=
  sameIgnoringCase_iff.2 (sameIgnoringCase_iff.1 same).symm

theorem sameIgnoringCase_trans {first second third : String}
    (left : sameIgnoringCase first second = true)
    (right : sameIgnoringCase second third = true) : sameIgnoringCase first third = true :=
  sameIgnoringCase_iff.2 ((sameIgnoringCase_iff.1 left).trans (sameIgnoringCase_iff.1 right))

end Text

open Text

namespace Headers

variable {headers : Headers}

/-- No name stands there in two spellings. -/
def NamesDiffer (headers : Headers) : Prop :=
  ∀ first ∈ headers.keys, ∀ second ∈ headers.keys,
    sameIgnoringCase first second = true → first = second

theorem NamesDiffer.nodup_lower (differ : headers.NamesDiffer) :
    (headers.keys.map lower).Nodup := by
  rw [List.nodup_map_iff_inj_on headers.nodup_keys]
  intro first isFirst second isSecond same
  exact differ first isFirst second isSecond (sameIgnoringCase_iff.2 same)

/-! ## Lookups -/

/-- What a lookup finds is held under some spelling of the name. -/
theorem exists_of_value? {name value : String} (found : headers.value? name = some value) :
    ∃ key, sameIgnoringCase key name = true ∧ headers.get? key = some value := by
  rw [Headers.value?, Option.map_eq_some_iff] at found
  obtain ⟨⟨key, held⟩, isFirst, rfl⟩ := found
  have same := List.find?_some isFirst
  exact ⟨key, same, Dict.get?_of_mem_entries (List.mem_of_find?_eq_some isFirst)⟩

theorem isSome_value?_iff {name : String} :
    (headers.value? name).isSome ↔
      ∃ key ∈ headers.keys, sameIgnoringCase key name = true := by
  rw [Headers.value?, Option.isSome_map, List.find?_isSome]
  simp [Dict.keys]

/-- A lookup finds what is held under the only spelling of the name. -/
theorem value?_of_single {key name value : String} (same : sameIgnoringCase key name = true)
    (single : ∀ other ∈ headers.keys, sameIgnoringCase other name = true → other = key)
    (held : headers.get? key = some value) : headers.value? name = some value := by
  have isKey : key ∈ headers.keys := Dict.mem_keys_iff.2 (held ▸ rfl)
  obtain ⟨other, found⟩ := Option.isSome_iff_exists.1
    (isSome_value?_iff.2 ⟨key, isKey, same⟩)
  obtain ⟨spelling, alsoSame, alsoHeld⟩ := exists_of_value? found
  have isSpelling : spelling ∈ headers.keys := Dict.mem_keys_iff.2 (alsoHeld ▸ rfl)
  obtain rfl := single spelling isSpelling alsoSame
  rw [found, ← alsoHeld, held]

/-- A lookup finds what is held under any spelling of the name, if no other one is there. -/
theorem NamesDiffer.value?_eq_some (differ : headers.NamesDiffer) {key name value : String}
    (same : sameIgnoringCase key name = true) (held : headers.get? key = some value) :
    headers.value? name = some value := by
  have isKey : key ∈ headers.keys := Dict.mem_keys_iff.2 (held ▸ rfl)
  refine value?_of_single same (fun other isOther alsoSame => ?_) held
  exact differ other isOther key isKey
    (sameIgnoringCase_trans alsoSame (sameIgnoringCase_symm same))

theorem NamesDiffer.value?_eq_some_iff (differ : headers.NamesDiffer) {name value : String} :
    headers.value? name = some value ↔
      ∃ key, sameIgnoringCase key name = true ∧ headers.get? key = some value :=
  ⟨exists_of_value?, fun ⟨_, same, held⟩ => differ.value?_eq_some same held⟩

/-- A lookup does not depend on the spelling. -/
theorem value?_congr (headers : Headers) {left right : String}
    (same : sameIgnoringCase left right = true) : headers.value? left = headers.value? right := by
  have sameLower := sameIgnoringCase_iff.1 same
  simp only [Headers.value?, sameIgnoringCase, sameLower]

/-! ## Setting a header -/

theorem get?_set (headers : Headers) (name value other : String) :
    (headers.set name value).get? other =
      if other = name then some value
      else if sameIgnoringCase other name then none else headers.get? other := by
  rw [Headers.set, Dict.get?_insert]
  split
  · rfl
  · rw [Dict.get?_filter _ fun other => !sameIgnoringCase other name]
    cases sameIgnoringCase other name <;> rfl

/-- A header that is set stands beside those of other names. -/
theorem mem_keys_set {name value key : String} :
    key ∈ (headers.set name value).keys ↔
      key = name ∨ key ∈ headers.keys ∧ sameIgnoringCase key name = false := by
  rw [Dict.mem_keys_iff, get?_set, Dict.mem_keys_iff]
  by_cases isName : key = name
  · simp [isName]
  · cases sameIgnoringCase key name <;> simp [isName]

theorem NamesDiffer.set (differ : headers.NamesDiffer) (name value : String) :
    (headers.set name value).NamesDiffer := by
  intro first isFirst second isSecond same
  rw [mem_keys_set] at isFirst isSecond
  rcases isFirst with rfl | ⟨isFirst, firstDiffers⟩
  · rcases isSecond with rfl | ⟨isSecond, secondDiffers⟩
    · rfl
    · rw [sameIgnoringCase_symm same] at secondDiffers
      cases secondDiffers
  · rcases isSecond with rfl | ⟨isSecond, secondDiffers⟩
    · rw [same] at firstDiffers
      cases firstDiffers
    · exact differ first isFirst second isSecond same

/-- A header that is set has its value, in any spelling of the name. -/
theorem value?_set {name variant : String} (headers : Headers) (value : String)
    (same : sameIgnoringCase variant name = true) :
    (headers.set name value).value? variant = some value := by
  have isKey : name ∈ (headers.set name value).keys := mem_keys_set.2 (.inl rfl)
  obtain ⟨other, found⟩ := Option.isSome_iff_exists.1
    (isSome_value?_iff.2 ⟨name, isKey, sameIgnoringCase_symm same⟩)
  obtain ⟨key, sameKey, held⟩ := exists_of_value? found
  rw [get?_set, sameIgnoringCase_trans sameKey same, if_pos rfl] at held
  split at held
  · rw [found, held]
  · cases held

/-- A header that is set leaves those of other names as they were. -/
theorem NamesDiffer.value?_set_of_differs (differ : headers.NamesDiffer) {wanted name : String}
    (differs : sameIgnoringCase wanted name = false) (value : String) :
    (headers.set name value).value? wanted = headers.value? wanted := by
  have untouched : ∀ key, sameIgnoringCase key wanted = true →
      (headers.set name value).get? key = headers.get? key := by
    intro key same
    have keyDiffers : sameIgnoringCase key name = false := by
      rw [Bool.eq_false_iff]
      intro alsoSame
      rw [sameIgnoringCase_trans (sameIgnoringCase_symm same) alsoSame] at differs
      cases differs
    have notName : key ≠ name := by
      rintro rfl
      rw [sameIgnoringCase_refl] at keyDiffers
      cases keyDiffers
    rw [get?_set, if_neg notName, keyDiffers, if_neg Bool.false_ne_true]
  ext found
  rw [(differ.set name value).value?_eq_some_iff, differ.value?_eq_some_iff]
  refine exists_congr fun key => and_congr_right fun same => ?_
  rw [untouched key same]

/-- A header that is set takes no other name away. -/
theorem isSome_value?_set {wanted : String} (held : (headers.value? wanted).isSome)
    (name value : String) : ((headers.set name value).value? wanted).isSome := by
  rw [isSome_value?_iff] at held ⊢
  obtain ⟨key, isKey, same⟩ := held
  cases replaced : sameIgnoringCase key name with
  | true =>
      exact ⟨name, mem_keys_set.2 (.inl rfl),
        sameIgnoringCase_trans (sameIgnoringCase_symm replaced) same⟩
  | false => exact ⟨key, mem_keys_set.2 (.inr ⟨isKey, replaced⟩), same⟩

end Headers

end RequestFlow
