import Mathlib.Logic.Basic
import RequestFlow.Json.Basic

/-!
Contract: locations inside JSON values.

Owns: the steps from a value to one inside it, what stands at a location, and where a member or
an element stands among its siblings.
-/

namespace RequestFlow

/-- A step from a value to one inside it. -/
inductive Json.Step where
  | element (index : Nat)
  | member (name : String)

/-- What stands at a position of a value. -/
def Json.at? (value : Json) : List Json.Step → Option Json
  | [] => some value
  | .element index :: path => (value.element? index).bind fun inside => inside.at? path
  | .member name :: path => (value.member? name).bind fun inside => inside.at? path

namespace Json

theorem at?_element (value : Json) (index : Nat) :
    value.at? [.element index] = value.element? index := Option.bind_fun_some _

theorem at?_member (value : Json) (name : String) :
    value.at? [.member name] = value.member? name := Option.bind_fun_some _

theorem at?_cons (value : Json) (step : Step) (location : List Step) :
    value.at? (step :: location) = (value.at? [step]).bind fun inside => inside.at? location := by
  cases step with
  | element index => rw [at?_element, at?]
  | member name => rw [at?_member, at?]

/-- A member is the first one of its name. -/
theorem member?_eq_some_iff {members : List (String × Json)} {name : String} {inside : Json} :
    (object members).member? name = some inside ↔
      ∃ before after, members = before ++ (name, inside) :: after ∧
        name ∉ before.map Prod.fst := by
  rw [member?, List.lookup_eq_some_iff]
  refine exists_congr fun before => exists_congr fun after => and_congr_right fun _ => ?_
  simp only [bne_iff_ne, List.mem_map, not_exists, not_and]
  exact forall₂_congr fun _ _ => ne_comm

/-- As many elements stand before an element as its index says. -/
theorem element?_eq_some_iff {items : List Json} {index : Nat} {inside : Json} :
    (array items).element? index = some inside ↔
      ∃ before after, items = before ++ inside :: after ∧ before.length = index := by
  rw [element?]
  constructor
  · intro stands
    obtain ⟨bound, rfl⟩ := List.getElem?_eq_some_iff.1 stands
    refine ⟨items.take index, items.drop (index + 1), ?_, ?_⟩
    · rw [List.getElem_cons_drop, List.take_append_drop]
    · exact List.length_take_of_le (Nat.le_of_lt bound)
  · rintro ⟨before, after, rfl, rfl⟩
    simp

end Json

end RequestFlow
