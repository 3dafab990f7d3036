import Mathlib.Data.List.Forall2
import RequestFlow.Proofs.Json.Location
import RequestFlow.Proofs.Json.Pointer
import RequestFlow.Proofs.Text.Decimal

/-!
Contract: lookups against the evaluation rules of RFC 6901.

Owns: these rules, as a relation between the segments of a pointer, a value, a location in it
and what stands there; the comparison of lookups with them; and how many pointers lead to one
location.

The rules leave open only which segments spell an index. A lookup lets more of them through
than the standard does, so it finds all that the standard finds, and at array elements more.
-/

namespace RequestFlow

/-- The segment of a step by the standard: the name of a member, or the decimal text of the
index of an element. -/
def Json.Step.segment : Json.Step → String
  | .element index => Text.natText index
  | .member name => name

namespace Pointer

/-! ## Rules -/

/-- An index by the standard: a zero, or digits that do not start with one. -/
structure IsIndex (segment : String) (index : Nat) : Prop where
  grammar : segment = "0" ∨ ∃ first rest, segment.toList = first :: rest ∧ first ≠ '0' ∧
    ∀ char ∈ first :: rest, Text.isDigit char = true
  denotes : Text.digitsValue segment.toList = index

/-- An index with perhaps a plus sign and zeros in front. -/
def IsPaddedIndex (segment : String) (index : Nat) : Prop :=
  ∃ sign zeros, (sign = [] ∨ sign = ['+']) ∧
    segment.toList = sign ++ (List.replicate zeros '0' ++ (Text.natText index).toList)

section Rules

variable (spells : String → Nat → Prop)

/-- What a segment selects from a value. Nothing is selected from what is neither an object nor
an array. -/
inductive Selects : Json → String → Json.Step → Json → Prop where
  | member {before after : List (String × Json)} {name : String} {inside : Json}
      (first : name ∉ before.map Prod.fst) :
      Selects (.object (before ++ (name, inside) :: after)) name (.member name) inside
  | element {before after : List Json} {segment : String} {inside : Json}
      (spelled : spells segment before.length) :
      Selects (.array (before ++ inside :: after)) segment (.element before.length) inside

/-- Where some segments lead from a value, and what stands there. -/
inductive Evaluates : List String → Json → List Json.Step → Json → Prop where
  | here {value : Json} : Evaluates [] value [] value
  | step {segment : String} {segments : List String} {value next result : Json}
      {step : Json.Step} {location : List Json.Step}
      (selects : Selects spells value segment step next)
      (rest : Evaluates segments next location result) :
      Evaluates (segment :: segments) value (step :: location) result

end Rules

/-! ## Indices -/

theorem isIndex_iff {segment : String} {index : Nat} :
    IsIndex segment index ↔ segment = Text.natText index := by
  rw [← String.toList_inj, Text.natText, String.toList_ofList]
  constructor
  · rintro ⟨rfl | ⟨first, rest, split, nonzero, allDigits⟩, rfl⟩
    · rfl
    · obtain ⟨zeros, padded⟩ := Text.exists_zeros_natDigits (List.cons_ne_nil _ _) allDigits
      cases zeros with
      | zero => rwa [split]
      | succ zeros =>
          rw [List.replicate_succ, List.cons_append] at padded
          exact absurd (List.cons.inj padded).1 nonzero
  · intro isText
    obtain ⟨nonempty, allDigits, denotes⟩ := Text.digits_write_iff.2 ⟨0, isText⟩
    refine ⟨?_, denotes⟩
    rcases Nat.eq_zero_or_pos index with rfl | positive
    · exact .inl (String.toList_inj.1 isText)
    · cases split : segment.toList with
      | nil => exact absurd split nonempty
      | cons first rest =>
          refine .inr ⟨first, rest, rfl, fun isZero => ?_, split ▸ allDigits⟩
          refine Text.head?_natDigits positive ?_
          rw [← isText, split, isZero]
          rfl

theorem dropMark_digits {digits : List Char}
    (allDigits : ∀ char ∈ digits, Text.isDigit char = true) :
    Text.dropMark '+' digits = digits := by
  cases digits with
  | nil => rfl
  | cons first rest =>
      have isDigit := allDigits first List.mem_cons_self
      have notSign : first ≠ '+' := by
        rintro rfl
        cases isDigit
      rw [Text.dropMark, beq_false_of_ne notSign, if_neg Bool.false_ne_true]

theorem exists_sign_dropMark (text : List Char) :
    ∃ sign, (sign = [] ∨ sign = ['+']) ∧ text = sign ++ Text.dropMark '+' text := by
  cases text with
  | nil => exact ⟨[], .inl rfl, rfl⟩
  | cons first rest =>
      rw [Text.dropMark]
      split
      case isTrue isSign => exact ⟨['+'], .inr rfl, by rw [beq_iff_eq.1 isSign]; rfl⟩
      case isFalse => exact ⟨[], .inl rfl, rfl⟩

theorem isPaddedIndex_iff {segment : String} {index : Nat} :
    IsPaddedIndex segment index ↔ index? segment = some index := by
  have read : index? segment = some index ↔ ∃ zeros, Text.dropMark '+' segment.toList =
      List.replicate zeros '0' ++ Text.natDigits 10 index := by
    rw [← Text.digits_write_iff, index?]
    simp [and_assoc]
  rw [read, IsPaddedIndex, Text.natText, String.toList_ofList]
  constructor
  · rintro ⟨sign, zeros, isSign, written⟩
    refine ⟨zeros, ?_⟩
    rw [written]
    rcases isSign with rfl | rfl
    · exact dropMark_digits (Text.digits_write_iff.2 ⟨zeros, rfl⟩).2.1
    · rfl
  · rintro ⟨zeros, written⟩
    obtain ⟨sign, isSign, split⟩ := exists_sign_dropMark segment.toList
    exact ⟨sign, zeros, isSign, written ▸ split⟩

theorem IsIndex.padded {segment : String} {index : Nat} (isIndex : IsIndex segment index) :
    IsPaddedIndex segment index := by
  rw [isIndex_iff.1 isIndex]
  exact ⟨[], 0, .inl rfl, rfl⟩

/-! ## Evaluation and locations -/

/-- A segment that takes a step, if some segments spell some indices. -/
def Spells (spells : String → Nat → Prop) : Json.Step → String → Prop
  | .element index, segment => spells segment index
  | .member name, segment => segment = name

section Rules

variable {spells : String → Nat → Prop} {segment : String} {segments : List String}
  {value next result : Json} {step : Json.Step} {location : List Json.Step}

theorem selects_iff :
    Selects spells value segment step next ↔
      value.at? [step] = some next ∧ Spells spells step segment := by
  constructor
  · rintro (⟨first⟩ | ⟨spelled⟩)
    · rw [Json.at?_member, Json.member?_eq_some_iff]
      exact ⟨⟨_, _, rfl, first⟩, rfl⟩
    · rw [Json.at?_element, Json.element?_eq_some_iff]
      exact ⟨⟨_, _, rfl, rfl⟩, spelled⟩
  · rintro ⟨stands, spelled⟩
    cases step with
    | element index =>
        rw [Json.at?_element] at stands
        cases value with
        | array items =>
            obtain ⟨before, after, rfl, rfl⟩ := Json.element?_eq_some_iff.1 stands
            exact .element spelled
        | _ => cases stands
    | member name =>
        obtain rfl : segment = name := spelled
        rw [Json.at?_member] at stands
        cases value with
        | object members =>
            obtain ⟨before, after, rfl, first⟩ := Json.member?_eq_some_iff.1 stands
            exact .member first
        | _ => cases stands

/-- Some segments lead to a location if something stands there and each of them takes its
step. -/
theorem evaluates_iff :
    Evaluates spells segments value location result ↔
      value.at? location = some result ∧ List.Forall₂ (Spells spells) location segments := by
  constructor
  · intro evaluates
    induction evaluates with
    | here => exact ⟨rfl, .nil⟩
    | step selects _ inductionHypothesis =>
        obtain ⟨stands, spelled⟩ := selects_iff.1 selects
        refine ⟨?_, .cons spelled inductionHypothesis.2⟩
        rw [Json.at?_cons, stands]
        exact inductionHypothesis.1
  · rintro ⟨stands, spelled⟩
    induction spelled generalizing value with
    | nil =>
        cases stands
        exact .here
    | cons spelled _ inductionHypothesis =>
        rw [Json.at?_cons] at stands
        obtain ⟨next, here, later⟩ := Option.bind_eq_some_iff.1 stands
        exact .step (selects_iff.2 ⟨here, spelled⟩) (inductionHypothesis later)

theorem evaluates_isIndex_iff :
    Evaluates IsIndex segments value location result ↔
      value.at? location = some result ∧ segments = location.map Json.Step.segment := by
  have each : Spells IsIndex = fun step segment => step.segment = segment := by
    funext step segment
    cases step with
    | element index => exact propext (isIndex_iff.trans eq_comm)
    | member name => exact propext eq_comm
  rw [evaluates_iff, each, ← List.forall₂_map_left_iff, List.forall₂_eq_eq_eq,
    @eq_comm _ segments]

/-- What the standard's evaluation finds, a lookup finds too. -/
theorem Evaluates.padded (evaluates : Evaluates IsIndex segments value location result) :
    Evaluates IsPaddedIndex segments value location result := by
  rw [evaluates_iff] at evaluates ⊢
  refine ⟨evaluates.1, evaluates.2.imp fun step segment spelled => ?_⟩
  cases step with
  | element index => exact IsIndex.padded spelled
  | member name => exact spelled

/-- Something other than an array has no elements, and something other than an object has no
members. -/
theorem element_or_member {index : Nat} {name : String} {other : Json}
    (element : value.at? [.element index] = some next)
    (member : value.at? [.member name] = some other) : False := by
  cases value with
  | array items => cases member
  | _ => cases element

theorem Selects.unique {otherStep : Json.Step} {otherNext : Json}
    (one : Selects IsPaddedIndex value segment step next)
    (two : Selects IsPaddedIndex value segment otherStep otherNext) :
    step = otherStep ∧ next = otherNext := by
  obtain ⟨stands, spelled⟩ := selects_iff.1 one
  obtain ⟨otherStands, otherSpelled⟩ := selects_iff.1 two
  have sameStep : step = otherStep := by
    cases step with
    | element index =>
        cases otherStep with
        | element otherIndex =>
            have read := isPaddedIndex_iff.1 spelled
            rw [isPaddedIndex_iff.1 otherSpelled] at read
            rw [Option.some.inj read]
        | member name => exact (element_or_member stands otherStands).elim
    | member name =>
        cases otherStep with
        | element otherIndex => exact (element_or_member otherStands stands).elim
        | member otherName => exact congrArg _ (spelled.symm.trans otherSpelled)
  subst sameStep
  exact ⟨rfl, Option.some.inj (stands.symm.trans otherStands)⟩

/-- Segments lead from a value to one location only. -/
theorem Evaluates.unique {otherLocation : List Json.Step} {otherResult : Json}
    (one : Evaluates IsPaddedIndex segments value location result)
    (two : Evaluates IsPaddedIndex segments value otherLocation otherResult) :
    location = otherLocation := by
  induction one generalizing otherLocation with
  | here =>
      cases two
      rfl
  | step selects _ inductionHypothesis =>
      cases two with
      | step otherSelects rest =>
          obtain ⟨rfl, rfl⟩ := selects.unique otherSelects
          rw [inductionHypothesis rest]

/-! ## Rules and lookups -/

theorem step?_eq_some_iff :
    step? value segment = some next ↔ ∃ step, Selects IsPaddedIndex value segment step next := by
  constructor
  · intro found
    cases value with
    | object members =>
        refine ⟨.member segment, selects_iff.2 ⟨?_, rfl⟩⟩
        rw [Json.at?_member]
        exact found
    | array items =>
        obtain ⟨index, read, stands⟩ := Option.bind_eq_some_iff.1 found
        refine ⟨.element index, selects_iff.2 ⟨?_, isPaddedIndex_iff.2 read⟩⟩
        rw [Json.at?_element]
        exact stands
    | _ => cases found
  · rintro ⟨step, (⟨first⟩ | ⟨spelled⟩)⟩
    · exact Json.member?_eq_some_iff.2 ⟨_, _, rfl, first⟩
    · refine Option.bind_eq_some_iff.2 ⟨_, isPaddedIndex_iff.1 spelled, ?_⟩
      exact Json.element?_eq_some_iff.2 ⟨_, _, rfl, rfl⟩

theorem follow_eq_some_iff :
    follow segments value = some result ↔
      ∃ location, Evaluates IsPaddedIndex segments value location result := by
  induction segments generalizing value with
  | nil =>
      constructor
      · intro found
        cases found
        exact ⟨[], .here⟩
      · rintro ⟨location, evaluates⟩
        cases evaluates
        rfl
  | cons segment segments inductionHypothesis =>
      rw [follow_cons, Option.bind_eq_some_iff]
      constructor
      · rintro ⟨next, found, later⟩
        obtain ⟨step, selects⟩ := step?_eq_some_iff.1 found
        obtain ⟨location, rest⟩ := inductionHypothesis.1 later
        exact ⟨step :: location, .step selects rest⟩
      · rintro ⟨location, evaluates⟩
        cases evaluates with
        | step selects rest =>
            exact ⟨_, step?_eq_some_iff.2 ⟨_, selects⟩, inductionHypothesis.2 ⟨_, rest⟩⟩

end Rules

/-- A checked text is known by its segments. -/
theorem eq_of_segments_eq {left right : Pointer} (leftChecked : left.Checked)
    (rightChecked : right.Checked) (same : left.segments = right.segments) : left = right := by
  have texts := leftChecked.textOf_segments
  rw [same, rightChecked.textOf_segments] at texts
  cases left
  cases right
  exact congrArg mk (String.ofList_injective texts.symm)

/-- A lookup follows the rules with plus signs and zeros let through in front of indices. It
finds all that the standard's evaluation finds; and it finds nothing more, exactly if each
segment that takes it to an element is the decimal text of the index. To a location that it
leads to, one pointer leads by the standard, made from the location alone; and it leads there
by the standard just if it is that one, and just if its segments are such texts. -/
theorem lookup_evaluates {text : String} {pointer : Pointer} (accepted : parse text = .ok pointer)
    (value : Json) :
    (∀ result, pointer.lookup value = .ok result ↔
      ∃ location, Evaluates IsPaddedIndex pointer.segments value location result) ∧
    (∀ location result, Evaluates IsIndex pointer.segments value location result →
      pointer.lookup value = .ok result) ∧
    ((∀ result, pointer.lookup value = .ok result ↔
        ∃ location, Evaluates IsIndex pointer.segments value location result) ↔
      ∀ location result, Evaluates IsPaddedIndex pointer.segments value location result →
        pointer.segments = location.map Json.Step.segment) ∧
    ∀ location result, Evaluates IsPaddedIndex pointer.segments value location result →
      ∃ standard, parse (textOf (location.map Json.Step.segment)) = .ok standard ∧
        Evaluates IsIndex standard.segments value location result ∧
        (Evaluates IsIndex pointer.segments value location result ↔ pointer = standard) ∧
        (pointer = standard ↔ pointer.segments = location.map Json.Step.segment) := by
  have looked : ∀ result, pointer.lookup value = .ok result ↔
      ∃ location, Evaluates IsPaddedIndex pointer.segments value location result :=
    fun result => walk_eq_ok_iff.trans follow_eq_some_iff
  refine ⟨looked, fun location result evaluates => (looked result).2 ⟨_, evaluates.padded⟩,
    ⟨fun agree location result evaluates => ?_, fun plain result => ?_⟩,
    fun location result evaluates => ?_⟩
  · -- The standard leads to this result too, and so to this location: segments lead to one only.
    obtain ⟨found, standard⟩ := (agree result).1 ((looked result).2 ⟨location, evaluates⟩)
    rw [evaluates.unique standard.padded]
    exact (evaluates_isIndex_iff.1 standard).2
  · rw [looked]
    refine exists_congr fun location => ⟨fun evaluates => ?_, Evaluates.padded⟩
    exact evaluates_isIndex_iff.2 ⟨(evaluates_iff.1 evaluates).1, plain _ _ evaluates⟩
  · have standardAccepted := parse_textOf (location.map Json.Step.segment)
    have segments := segments_ofText (location.map Json.Step.segment)
    have stands := (evaluates_iff.1 evaluates).1
    have isStandard : pointer = ⟨(textOf (location.map Json.Step.segment)).toList⟩ ↔
        pointer.segments = location.map Json.Step.segment := by
      constructor
      · rintro rfl
        exact segments
      · intro plain
        exact eq_of_segments_eq (checked_of_parse accepted) (checked_of_parse standardAccepted)
          (plain.trans segments.symm)
    refine ⟨_, standardAccepted, evaluates_isIndex_iff.2 ⟨stands, segments⟩, ?_, isStandard⟩
    rw [isStandard, evaluates_isIndex_iff, and_iff_right stands]

/-- The second of two elements, by its decimal index. -/
theorem second_element_evaluates :
    parse "/1" = .ok ⟨"/1".toList⟩ ∧
      (∀ result, lookup ⟨"/1".toList⟩ (.array [.null, .bool true]) = .ok result ↔
        ∃ location, Evaluates IsIndex (segments ⟨"/1".toList⟩) (.array [.null, .bool true])
          location result) ∧
      ∃ location, Evaluates IsIndex (segments ⟨"/1".toList⟩) (.array [.null, .bool true])
        location (.bool true) := by
  have accepted : parse "/1" = .ok ⟨"/1".toList⟩ := by decide
  have second : Evaluates IsIndex (segments ⟨"/1".toList⟩) (.array [.null, .bool true])
      [.element 1] (.bool true) := evaluates_isIndex_iff.2 ⟨rfl, by decide⟩
  obtain ⟨-, -, agrees, -⟩ := lookup_evaluates accepted (.array [.null, .bool true])
  refine ⟨accepted, agrees.2 fun location result evaluates => ?_, _, second⟩
  rw [← second.padded.unique evaluates]
  decide

/-- A zero in front of the index makes another pointer, which the standard takes nowhere, and
which a lookup takes to the same element. -/
theorem second_element_reached_by_zero :
    ∃ padded plain, parse "/01" = .ok padded ∧ parse "/1" = .ok plain ∧ padded ≠ plain ∧
      padded.lookup (.array [.null, .bool true]) = .ok (.bool true) ∧
      (¬ ∃ location result,
        Evaluates IsIndex padded.segments (.array [.null, .bool true]) location result) ∧
      ∀ pointer ∈ [padded, plain], Evaluates IsPaddedIndex pointer.segments
        (.array [.null, .bool true]) [.element 1] (.bool true) := by
  have reached : ∀ segment, IsPaddedIndex segment 1 → Evaluates IsPaddedIndex [segment]
      (.array [.null, .bool true]) [.element 1] (.bool true) := fun segment isIndex =>
    evaluates_iff.2 ⟨rfl, .cons isIndex .nil⟩
  have first := reached "01" (isPaddedIndex_iff.2 (by decide))
  have second := reached "1" (isPaddedIndex_iff.2 (by decide))
  refine ⟨⟨"/01".toList⟩, ⟨"/1".toList⟩, by decide, by decide, by decide, by decide, ?_, ?_⟩
  · rintro ⟨location, result, evaluates⟩
    have only : [.element 1] = location := first.unique evaluates.padded
    have plain := (evaluates_isIndex_iff.1 evaluates).2
    rw [← only] at plain
    exact absurd plain (by decide)
  · exact List.forall_mem_cons.2 ⟨first, List.forall_mem_singleton.2 second⟩

end Pointer

end RequestFlow
