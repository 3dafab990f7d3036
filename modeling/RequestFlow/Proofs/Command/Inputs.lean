import RequestFlow.Command.Inputs
import RequestFlow.Proofs.Dict
import RequestFlow.Proofs.Text.Cut

/-!
Contract: what becomes of inputs when settings are merged into them.

Owns: the settings that arguments stand for; all that a merge can come to; and which of it
happens when: either every argument is laid over the inputs, or the inputs stay as they were.

Does not own: the other sources of a variable (`Proofs.Variable.Precedence`).
-/

namespace RequestFlow.Inputs

open Text

/-! ## Settings -/

/-- An argument sets a key to a value. The key stands before the first equals sign, is not
blank, and leaves out the blanks around it; the value is all that stands behind the sign. -/
def Sets (argument key value : String) : Prop :=
  ∃ front : List Char, argument.toList = front ++ '=' :: value.toList ∧ '=' ∉ front ∧
    (∃ char ∈ front, isBlank char = false) ∧ key = String.ofList (trim front)

def IsSetting (argument : String) : Prop :=
  ∃ key value, Sets argument key value

/-- Of all arguments that set a key, the last one sets it to a value. -/
def LastSets (arguments : List String) (key value : String) : Prop :=
  ∃ before argument rest, arguments = before ++ argument :: rest ∧ Sets argument key value ∧
    ∀ other ∈ rest, ∀ later, ¬ Sets other key later

theorem pair?_eq_some_iff {argument key value : String} :
    pair? argument = some (key, value) ↔ Sets argument key value := by
  have notBlank (front : List Char) :
      isAllBlank (String.ofList front) = false ↔ ∃ char ∈ front, isBlank char = false := by
    simp [isAllBlank]
  constructor
  · intro found
    unfold pair? cutString at found
    cases sides : cut '=' argument.toList with
    | none => simp [sides] at found
    | some pair =>
        obtain ⟨front, behind⟩ := pair
        have split := eq_append_of_cut sides
        simp only [sides, Option.map_some] at found
        by_cases blank : isAllBlank (String.ofList front)
        · simp [blank] at found
        · simp only [blank, Bool.false_eq_true, if_false, Option.some.injEq, Prod.mk.injEq]
            at found
          refine ⟨front, ?_, split.2, ?_, ?_⟩
          · rw [← found.2, String.toList_ofList]
            exact split.1
          · exact (notBlank front).1 (by simpa using blank)
          · rw [← found.1, trimmed, String.toList_ofList]
  · rintro ⟨front, split, absent, solid, rfl⟩
    have sides : cut '=' argument.toList = some (front, value.toList) := by
      rw [split]
      exact cut_of_notMem value.toList absent
    simp [pair?, cutString, sides, (notBlank front).2 solid, trimmed]

theorem pair?_eq_none_iff {argument : String} : pair? argument = none ↔ ¬ IsSetting argument := by
  rw [Option.eq_none_iff_forall_ne_some]
  constructor
  · rintro none ⟨key, value, sets⟩
    exact none (key, value) (pair?_eq_some_iff.2 sets)
  · intro none pair found
    exact none ⟨pair.1, pair.2, pair?_eq_some_iff.1 found⟩

/-- Arguments that are all settings are what they set, in order. -/
theorem pairs_eq_ok_iff {arguments : List String} {found : List (String × String)} :
    pairs arguments = .ok found ↔ arguments.map pair? = found.map some := by
  induction arguments generalizing found with
  | nil => cases found <;> simp [pairs]
  | cons argument rest inductionHypothesis =>
      rw [pairs, List.map_cons]
      cases pair? argument with
      | none => cases found <;> simp
      | some pair =>
          cases others : pairs rest with
          | error error =>
              have unlisted : ∀ more : List (String × String),
                  rest.map pair? ≠ more.map some := by
                intro more listed
                simp [inductionHypothesis.2 listed] at others
              cases found <;> simp [Except.map, unlisted]
          | ok more =>
              have listed := inductionHypothesis.1 others
              cases found with
              | nil => simp [Except.map]
              | cons first found =>
                  have same : more.map some = found.map some ↔ more = found :=
                    List.map_inj_right fun _ _ => Option.some.inj
                  simp [Except.map, listed, same]

/-- What is wrong with arguments is the first one that is no setting. -/
theorem pairs_eq_error_iff {arguments : List String} {error : InputsError} :
    pairs arguments = .error error ↔
      ∃ before argument rest, arguments = before ++ argument :: rest ∧
        (∀ other ∈ before, IsSetting other) ∧ ¬ IsSetting argument ∧
        error = .malformed argument := by
  induction arguments with
  | nil => simp [pairs]
  | cons argument rest inductionHypothesis =>
      rw [pairs]
      cases found : pair? argument with
      | none =>
          have malformed := pair?_eq_none_iff.1 found
          constructor
          · intro same
            have isError : InputsError.malformed argument = error := by simpa using same
            exact ⟨[], argument, rest, rfl, by simp, malformed, isError.symm⟩
          · rintro ⟨before, first, behind, split, settings, bad, rfl⟩
            cases before with
            | nil =>
                have isFirst : argument = first := by simpa using congrArg List.head? split
                simp [isFirst]
            | cons other before =>
                have isOther : argument = other := by simpa using congrArg List.head? split
                exact absurd (isOther ▸ settings other List.mem_cons_self) malformed
      | some pair =>
          have setting : IsSetting argument := ⟨pair.1, pair.2, pair?_eq_some_iff.1 found⟩
          have later : (pairs rest).map (pair :: ·) = .error error ↔
              pairs rest = .error error := by
            cases pairs rest <;> simp [Except.map]
          refine later.trans (inductionHypothesis.trans ?_)
          constructor
          · rintro ⟨before, bad, behind, split, settings, others⟩
            refine ⟨argument :: before, bad, behind, by rw [split]; rfl, ?_, others⟩
            exact List.forall_mem_cons.2 ⟨setting, settings⟩
          · rintro ⟨before, bad, behind, split, settings, malformed, same⟩
            cases before with
            | nil =>
                have isFirst : argument = bad := by simpa using congrArg List.head? split
                exact absurd (isFirst ▸ setting) malformed
            | cons first before =>
                have isRest : rest = before ++ bad :: behind := by
                  simpa using congrArg List.tail split
                exact ⟨before, bad, behind, isRest,
                  fun other member => settings other (List.mem_cons_of_mem _ member),
                  malformed, same⟩

theorem pairs_eq_malformed_iff {arguments : List String} {argument : String} :
    pairs arguments = .error (.malformed argument) ↔
      ∃ before rest, arguments = before ++ argument :: rest ∧
        (∀ other ∈ before, IsSetting other) ∧ ¬ IsSetting argument := by
  rw [pairs_eq_error_iff]
  constructor
  · rintro ⟨before, other, rest, split, settings, malformed, same⟩
    obtain rfl : argument = other := by simpa using same
    exact ⟨before, rest, split, settings, malformed⟩
  · rintro ⟨before, rest, split, settings, malformed⟩
    exact ⟨before, argument, rest, split, settings, malformed, rfl⟩

section Listed

variable {arguments : List String} {found : List (String × String)}

theorem isSetting_of_pairs (listed : pairs arguments = .ok found) :
    ∀ argument ∈ arguments, IsSetting argument := by
  intro argument member
  have inMap : pair? argument ∈ found.map some := by
    rw [← pairs_eq_ok_iff.1 listed]
    exact List.mem_map_of_mem member
  obtain ⟨pair, -, same⟩ := List.mem_map.1 inMap
  exact ⟨pair.1, pair.2, pair?_eq_some_iff.1 same.symm⟩

/-- A key is among what arguments set when one of them sets it. -/
theorem mem_keys_iff_of_pairs (listed : pairs arguments = .ok found) {key : String} :
    key ∈ found.map Prod.fst ↔ ∃ argument ∈ arguments, ∃ value, Sets argument key value := by
  have sets (argument value : String) :
      Sets argument key value ↔ pair? argument = some (key, value) :=
    pair?_eq_some_iff.symm
  simp only [sets]
  have listed := pairs_eq_ok_iff.1 listed
  constructor
  · intro member
    obtain ⟨pair, among, rfl⟩ := List.mem_map.1 member
    have inMap : some pair ∈ arguments.map pair? := by
      rw [listed]
      exact List.mem_map_of_mem among
    obtain ⟨argument, given, same⟩ := List.mem_map.1 inMap
    exact ⟨argument, given, pair.2, same⟩
  · rintro ⟨argument, given, value, same⟩
    have inMap : some (key, value) ∈ found.map some := by
      rw [← listed, ← same]
      exact List.mem_map_of_mem given
    have among : (key, value) ∈ found := by simpa using inMap
    exact List.mem_map_of_mem among

/-- A key has the value of the last argument that sets it. -/
theorem lookup_reverse_eq_some_iff_of_pairs (listed : pairs arguments = .ok found)
    {key value : String} :
    found.reverse.lookup key = some value ↔ LastSets arguments key value := by
  rw [← Dict.get?_ofList_eq_reverse, Dict.get?_ofList_eq_some_iff]
  have listed := pairs_eq_ok_iff.1 listed
  constructor
  · rintro ⟨before, after, rfl, last⟩
    rw [List.map_append, List.map_cons, List.map_eq_append_iff] at listed
    obtain ⟨front, back, rfl, -, listed⟩ := listed
    rw [List.map_eq_cons_iff] at listed
    obtain ⟨argument, rest, rfl, sets, others⟩ := listed
    refine ⟨front, argument, rest, rfl, pair?_eq_some_iff.1 sets, ?_⟩
    intro other member later setsLater
    apply last
    exact (mem_keys_iff_of_pairs (pairs_eq_ok_iff.2 others)).2 ⟨other, member, later, setsLater⟩
  · rintro ⟨front, argument, rest, rfl, sets, last⟩
    rw [List.map_append, List.map_cons, pair?_eq_some_iff.2 sets] at listed
    obtain ⟨before, back, rfl, -, listed⟩ := List.map_eq_append_iff.1 listed.symm
    obtain ⟨pair, after, rfl, same, others⟩ := List.map_eq_cons_iff.1 listed
    refine ⟨before, after, by rw [Option.some.inj same], ?_⟩
    rw [mem_keys_iff_of_pairs (pairs_eq_ok_iff.2 others.symm)]
    rintro ⟨other, member, later, setsLater⟩
    exact last other member later setsLater

end Listed

/-! ## All that a merge can come to -/

inductive MergeOutcome (held : Option Json) (arguments : List String) :
    Except InputsError Unit → Option Json → Prop where
  | nothing (empty : arguments = []) : MergeOutcome held arguments (.ok ()) held
  | refused {error : InputsError} (bad : pairs arguments = .error error) :
      MergeOutcome held arguments (.error error) held
  | unfit {found : List (String × String)} {value : Json} (given : arguments ≠ [])
      (listed : pairs arguments = .ok found) (isHeld : held = some value)
      (noObject : value.toDict? = none) : MergeOutcome held arguments (.error .notObject) held
  | laid {found : List (String × String)} {members inputs : Dict Json} (given : arguments ≠ [])
      (listed : pairs arguments = .ok found)
      (isObject : held.elim (some ∅) Json.toDict? = some members)
      (has : ∀ key, inputs.get? key =
        ((found.reverse.lookup key).map Json.string).or (members.get? key)) :
      MergeOutcome held arguments (.ok ()) (some (.ofDict inputs))

/-- The members that inputs had before arguments were laid over them. -/
theorem get?_of_elim {held : Option Json} {members : Dict Json}
    (isObject : held.elim (some ∅) Json.toDict? = some members) (key : String) :
    (held.bind Json.toDict?).bind (·.get? key) = members.get? key := by
  cases held with
  | none =>
      have empty : ∅ = members := by simpa using isObject
      simp [← empty]
  | some value =>
      have same : value.toDict? = some members := by simpa using isObject
      simp [same]

/-- An object with texts over its members is an object, and the texts decide first. -/
theorem exists_overlay_eq (members : Dict Json) (found : List (String × String)) :
    ∃ inputs : Dict Json, overlay members found = .ofDict inputs ∧
      ∀ key, inputs.get? key =
        ((found.reverse.lookup key).map Json.string).or (members.get? key) := by
  have laid : overlay members found =
      .ofDict ((found.map fun field => (field.1, Json.string field.2)).foldl
        (fun dict field => dict.insert field.1 field.2) members) := by
    rw [List.foldl_map]
    rfl
  refine ⟨_, laid, fun key => ?_⟩
  rw [Dict.get?_foldl_insert, ← List.map_reverse, lookup_map_snd]

/-- Absent inputs become an object before the test for one, which they pass. So a merge that
fails has changed nothing. -/
theorem outcome_mergeInto (held : Option Json) (arguments : List String) :
    MergeOutcome held arguments (mergeInto held arguments).1 (mergeInto held arguments).2 := by
  unfold mergeInto
  cases listed : pairs arguments with
  | error error => exact .refused listed
  | ok found =>
      have listedAll := pairs_eq_ok_iff.1 listed
      cases found with
      | nil => exact .nothing (by simpa using listedAll)
      | cons first rest =>
          have given : arguments ≠ [] := by
            rintro rfl
            simp at listedAll
          have laid {members : Dict Json}
              (isObject : held.elim (some ∅) Json.toDict? = some members) :
              MergeOutcome held arguments (.ok ())
                (some (overlay members (first :: rest))) := by
            obtain ⟨inputs, isLaid, has⟩ := exists_overlay_eq members (first :: rest)
            rw [isLaid]
            exact .laid given listed isObject has
          cases held with
          | none => exact laid rfl
          | some value =>
              simp only [Option.getD_some]
              cases isObject : value.toDict? with
              | none => exact .unfit given listed rfl isObject
              | some members => exact laid isObject

/-! ## All or nothing -/

/-- What a merge of arguments into held inputs achieves. -/
structure Merges (held : Option Json) (arguments : List String)
    (outcome : Except InputsError Unit) (after : Option Json) : Prop where
  succeeds_iff : outcome = .ok () ↔ (∀ argument ∈ arguments, IsSetting argument) ∧
    (arguments = [] ∨ held = none ∨ ∃ members, held = some (.object members))
  unchanged_of_error : ∀ error, outcome = .error error → after = held
  /-- The argument that an error names is the first one that is no setting. -/
  malformed_iff : ∀ argument, outcome = .error (.malformed argument) ↔
    ∃ before rest, arguments = before ++ argument :: rest ∧
      (∀ other ∈ before, IsSetting other) ∧ ¬ IsSetting argument
  unchanged_of_nil : arguments = [] → after = held
  /-- The last argument for a key gives its member, and every other member stays. -/
  member_iff : outcome = .ok () → arguments ≠ [] → ∃ inputs : Dict Json,
    after = some (.ofDict inputs) ∧ ∀ key value, inputs.get? key = some value ↔
      (∃ text, LastSets arguments key text ∧ value = .string text) ∨
        (∀ argument ∈ arguments, ∀ text, ¬ Sets argument key text) ∧
          (held.bind Json.toDict?).bind (·.get? key) = some value

section Outcome

variable {held after : Option Json} {arguments : List String}
  {result : Except InputsError Unit}

theorem MergeOutcome.succeeds_iff (outcome : MergeOutcome held arguments result after) :
    result = .ok () ↔ (∀ argument ∈ arguments, IsSetting argument) ∧
      (arguments = [] ∨ held = none ∨ ∃ members, held = some (.object members)) := by
  cases outcome with
  | nothing empty => simp [empty]
  | @refused error bad =>
      have notAll : ¬ ∀ argument ∈ arguments, IsSetting argument := by
        obtain ⟨before, argument, rest, split, -, malformed, -⟩ := pairs_eq_error_iff.1 bad
        intro settings
        exact malformed (settings argument (by simp [split]))
      simp [notAll]
  | @unfit found value given listed isHeld noObject =>
      have notObject : ∀ members, value ≠ .object members := by
        rintro members rfl
        simp [Json.toDict?] at noObject
      simp [given, isHeld, notObject]
  | @laid found members inputs given listed isObject has =>
      have fits : held = none ∨ ∃ members, held = some (.object members) := by
        cases held with
        | none => exact .inl rfl
        | some value => cases value <;> simp [Json.toDict?] at isObject ⊢
      simpa [given, fits] using isSetting_of_pairs listed

theorem MergeOutcome.malformed_iff (outcome : MergeOutcome held arguments result after)
    (argument : String) :
    result = .error (.malformed argument) ↔
      ∃ before rest, arguments = before ++ argument :: rest ∧
        (∀ other ∈ before, IsSetting other) ∧ ¬ IsSetting argument := by
  rw [← pairs_eq_malformed_iff]
  cases outcome with
  | nothing empty => simp [empty, pairs]
  | refused bad => simp [bad]
  | unfit given listed isHeld noObject => simp [listed]
  | laid given listed isObject has => simp [listed]

theorem MergeOutcome.member_iff (outcome : MergeOutcome held arguments result after)
    (succeeds : result = .ok ()) (given : arguments ≠ []) :
    ∃ inputs : Dict Json, after = some (.ofDict inputs) ∧
      ∀ key value, inputs.get? key = some value ↔
        (∃ text, LastSets arguments key text ∧ value = .string text) ∨
          (∀ argument ∈ arguments, ∀ text, ¬ Sets argument key text) ∧
            (held.bind Json.toDict?).bind (·.get? key) = some value := by
  cases outcome with
  | nothing empty => exact absurd empty given
  | refused bad => simp at succeeds
  | unfit given listed isHeld noObject => simp at succeeds
  | @laid found members inputs _ listed isObject has =>
      refine ⟨inputs, rfl, fun key value => ?_⟩
      have setBy (text : String) := @lookup_reverse_eq_some_iff_of_pairs _ _ listed key text
      rw [has, get?_of_elim isObject]
      cases last : found.reverse.lookup key with
      | some text =>
          have lastSets := (setBy text).1 last
          have isSet : ¬ ∀ argument ∈ arguments, ∀ text, ¬ Sets argument key text := by
            obtain ⟨before, argument, rest, split, sets, -⟩ := lastSets
            intro unset
            exact unset argument (by simp [split]) text sets
          have only (other : String) : LastSets arguments key other ↔ text = other := by
            rw [← setBy other, last, Option.some.injEq]
          simp [isSet, only, eq_comm]
      | none =>
          have unset : ∀ argument ∈ arguments, ∀ text, ¬ Sets argument key text := by
            have absent : key ∉ found.map Prod.fst := by
              intro member
              obtain ⟨pair, among, rfl⟩ := List.mem_map.1 member
              have other := List.lookup_eq_none_iff.1 last pair (List.mem_reverse.2 among)
              simp at other
            intro argument member text sets
            exact absent ((mem_keys_iff_of_pairs listed).2 ⟨argument, member, text, sets⟩)
          have noLast (other : String) : ¬ LastSets arguments key other := by
            simp [← setBy other, last]
          simpa [noLast] using fun _ => unset

end Outcome

/-- A merge lays every argument over the inputs or leaves them as they were, whichever argument
is at fault and however many settings come before it. -/
theorem merge_all_or_nothing (held : Option Json) (arguments : List String) :
    Merges held arguments (mergeInto held arguments).1 (mergeInto held arguments).2 := by
  have outcome := outcome_mergeInto held arguments
  generalize (mergeInto held arguments).1 = result at outcome ⊢
  generalize (mergeInto held arguments).2 = after at outcome ⊢
  constructor
  case succeeds_iff => exact outcome.succeeds_iff
  case malformed_iff => exact outcome.malformed_iff
  case member_iff => exact outcome.member_iff
  case unchanged_of_error =>
    intro error failed
    cases outcome with
    | nothing | refused | unfit => rfl
    | laid => simp at failed
  case unchanged_of_nil =>
    intro empty
    cases outcome with
    | nothing | refused | unfit => rfl
    | laid given => exact absurd empty given

end RequestFlow.Inputs
