import RequestFlow.Dict

/-!
Contract: what a dictionary holds after its operations.

Owns: the lookup after an insertion or a filter on keys, the entries and keys of a dictionary
made from a list, the lists that a dictionary is made from without a change, the lookup when one
dictionary is put over another or the values are changed, and equality by lookups.
-/

namespace RequestFlow

/-- A lookup compares with the first key. -/
theorem lookup_cons_eq {α : Type u} (key other : String) (value : α)
    (rest : List (String × α)) :
    ((key, value) :: rest).lookup other =
      if other = key then some value else rest.lookup other := by
  by_cases isKey : other = key
  · simp [isKey]
  · simp [List.lookup_cons, beq_false_of_ne isKey, isKey]

theorem lookup_insertField {α : Type u} (key other : String) (value : α)
    (entries : List (String × α)) :
    (insertField key value entries).lookup other =
      if other = key then some value else entries.lookup other := by
  induction entries with
  | nil => exact lookup_cons_eq key other value []
  | cons entry rest inductionHypothesis =>
      obtain ⟨name, found⟩ := entry
      simp only [insertField]
      split
      case isTrue keyFirst => exact lookup_cons_eq key other value _
      case isFalse keyNotFirst =>
        split
        case isTrue same =>
          rw [lookup_cons_eq, lookup_cons_eq, ← same]
          split <;> rfl
        case isFalse different =>
          rw [lookup_cons_eq, inductionHypothesis, lookup_cons_eq]
          by_cases isKey : other = key
          · rw [if_pos isKey, if_pos isKey, if_neg (isKey ▸ different)]
          · rw [if_neg isKey, if_neg isKey]

/-- Changed values are found under their old keys. -/
theorem lookup_map_snd {α : Type u} {β : Type v} (change : α → β) (key : String)
    (fields : List (String × α)) :
    (fields.map fun field => (field.1, change field.2)).lookup key =
      (fields.lookup key).map change := by
  induction fields with
  | nil => rfl
  | cons field rest inductionHypothesis =>
      rw [List.map_cons, lookup_cons_eq, lookup_cons_eq, inductionHypothesis]
      split <;> rfl

namespace Dict

variable {α : Type u}

@[simp] theorem get?_empty (key : String) : (∅ : Dict α).get? key = none := rfl

theorem get?_insert (dict : Dict α) (key other : String) (value : α) :
    (dict.insert key value).get? other = if other = key then some value else dict.get? other :=
  lookup_insertField key other value dict.entries

theorem mem_keys_iff {dict : Dict α} {key : String} :
    key ∈ dict.keys ↔ (dict.get? key).isSome := by
  simp [keys, get?, List.lookup_isSome_iff]

theorem mem_keys_insert {dict : Dict α} {key other : String} {value : α} :
    other ∈ (dict.insert key value).keys ↔ other = key ∨ other ∈ dict.keys := by
  rw [mem_keys_iff, get?_insert, mem_keys_iff]
  by_cases isKey : other = key <;> simp [isKey]

theorem mem_entries_of_get? {dict : Dict α} {key : String} {value : α}
    (found : dict.get? key = some value) : (key, value) ∈ dict.entries := by
  obtain ⟨before, after, split, -⟩ := List.lookup_eq_some_iff.1 found
  rw [split]
  simp

theorem get?_of_mem_entries {dict : Dict α} {key : String} {value : α}
    (member : (key, value) ∈ dict.entries) : dict.get? key = some value := by
  obtain ⟨before, after, split⟩ := List.append_of_mem member
  refine List.lookup_eq_some_iff.2 ⟨before, after, split, fun entry isBefore => ?_⟩
  have increasing := dict.increasing
  rw [split] at increasing
  have below := (List.pairwise_append.1 increasing).2.2 entry isBefore _ List.mem_cons_self
  rw [bne_iff_ne]
  intro same
  exact String.lt_irrefl _ (same ▸ below)

theorem get?_filter (dict : Dict α) (keep : String → Bool) (key : String) :
    (dict.filter fun other _ => keep other).get? key =
      if keep key then dict.get? key else none := by
  show (dict.entries.filter fun entry => keep entry.1).lookup key = _
  rw [get?]
  induction dict.entries with
  | nil => split <;> rfl
  | cons entry rest inductionHypothesis =>
      obtain ⟨name, value⟩ := entry
      rw [lookup_cons_eq, List.filter_cons]
      by_cases isKey : key = name
      · cases kept : keep name with
        | true => rw [if_pos rfl, lookup_cons_eq, isKey, if_pos rfl, if_pos rfl, if_pos kept]
        | false =>
            rw [if_neg Bool.false_ne_true, inductionHypothesis, isKey, kept]
            rfl
      · cases kept : keep name with
        | true =>
            rw [if_pos rfl, lookup_cons_eq, if_neg isKey, inductionHypothesis, if_neg isKey]
        | false => rw [if_neg Bool.false_ne_true, inductionHypothesis, if_neg isKey]

theorem mem_values_of_get? {dict : Dict α} {key : String} {value : α}
    (found : dict.get? key = some value) : value ∈ dict.values :=
  List.mem_map.2 ⟨(key, value), mem_entries_of_get? found, rfl⟩

theorem mem_keys_foldl_insert {key : String} (fields : List (String × α)) (dict : Dict α) :
    key ∈ (fields.foldl (fun dict field => dict.insert field.1 field.2) dict).keys ↔
      key ∈ dict.keys ∨ key ∈ fields.map Prod.fst := by
  induction fields generalizing dict with
  | nil => simp
  | cons field rest inductionHypothesis =>
      rw [List.foldl_cons, inductionHypothesis, mem_keys_iff, get?_insert, mem_keys_iff]
      by_cases isField : key = field.1 <;> simp [isField]

/-- A dictionary made from a list has the keys of the list. -/
theorem mem_keys_ofList {key : String} (fields : List (String × α)) :
    key ∈ (ofList fields).keys ↔ key ∈ fields.map Prod.fst := by
  rw [ofList, mem_keys_foldl_insert]
  simp [keys, empty]

theorem nodup_keys (dict : Dict α) : dict.keys.Nodup := by
  refine List.pairwise_map.2 (dict.increasing.imp ?_)
  intro left right below same
  exact String.lt_irrefl _ (same ▸ below)

/-! ## Dictionaries from lists -/

/-- A dictionary made from a list has no entries but those of the list. -/
theorem mem_of_mem_ofList {entry : String × α} {fields : List (String × α)}
    (member : entry ∈ (ofList fields).entries) : entry ∈ fields := by
  have grown : ∀ (fields : List (String × α)) (dict : Dict α),
      entry ∈ (fields.foldl (fun dict field => dict.insert field.1 field.2) dict).entries →
        entry ∈ dict.entries ∨ entry ∈ fields := by
    intro fields
    induction fields with
    | nil => exact fun dict member => .inl member
    | cons field rest inductionHypothesis =>
        intro dict member
        rcases inductionHypothesis _ member with early | late
        · rcases mem_insertField early with rfl | old
          · exact .inr List.mem_cons_self
          · exact .inl old
        · exact .inr (List.mem_cons_of_mem _ late)
  rcases grown fields empty member with impossible | among
  · cases impossible
  · exact among

/-- A key above all others comes last. -/
theorem insertField_last {key : String} {value : α} {entries : List (String × α)}
    (above : ∀ entry ∈ entries, entry.1 < key) :
    insertField key value entries = entries ++ [(key, value)] := by
  induction entries with
  | nil => rfl
  | cons entry rest inductionHypothesis =>
      obtain ⟨below, restBelow⟩ := List.forall_mem_cons.1 above
      have notAbove : ¬ key < entry.1 := fun other =>
        String.lt_irrefl _ (String.lt_trans below other)
      have different : key ≠ entry.1 := fun same => String.lt_irrefl _ (same ▸ below)
      rw [insertField, if_neg notAbove, if_neg different, inductionHypothesis restBelow,
        List.cons_append]

/-- A dictionary is made of its own entries. -/
theorem ofList_entries (dict : Dict α) : ofList dict.entries = dict := by
  have appended : ∀ (rest : List (String × α)) (base : Dict α),
      KeysIncrease (base.entries ++ rest) →
        (rest.foldl (fun dict field => dict.insert field.1 field.2) base).entries =
          base.entries ++ rest := by
    intro rest
    induction rest with
    | nil => exact fun base _ => (List.append_nil _).symm
    | cons field rest inductionHypothesis =>
        intro base increasing
        have last : (base.insert field.1 field.2).entries = base.entries ++ [field] :=
          insertField_last fun entry member =>
            (List.pairwise_append.1 increasing).2.2 entry member field List.mem_cons_self
        rw [List.foldl_cons, inductionHypothesis, last, List.append_assoc]
        · rfl
        · rw [last, List.append_assoc]
          exact increasing
  exact Dict.ext (appended dict.entries empty dict.increasing)

/-- Of several fields with one key, the last one decides. -/
theorem get?_foldl_insert (key : String) (fields : List (String × α)) (dict : Dict α) :
    (fields.foldl (fun dict field => dict.insert field.1 field.2) dict).get? key =
      (fields.reverse.lookup key).or (dict.get? key) := by
  induction fields generalizing dict with
  | nil => rfl
  | cons field rest inductionHypothesis =>
      rw [List.foldl_cons, inductionHypothesis, get?_insert, List.reverse_cons,
        List.lookup_append, Option.or_assoc, lookup_cons_eq]
      split <;> rfl

/-- A lookup in a dictionary made from a list is a lookup from the end of the list. -/
theorem get?_ofList_eq_reverse (key : String) (fields : List (String × α)) :
    (ofList fields).get? key = fields.reverse.lookup key := by
  rw [ofList, get?_foldl_insert]
  exact Option.or_none

/-- A key has the value of its last field. -/
theorem get?_ofList_eq_some_iff {key : String} {value : α} {fields : List (String × α)} :
    (ofList fields).get? key = some value ↔
      ∃ before after, fields = before ++ (key, value) :: after ∧ key ∉ after.map Prod.fst := by
  rw [get?_ofList_eq_reverse, List.lookup_eq_some_iff]
  constructor
  · rintro ⟨after, before, split, absent⟩
    refine ⟨before.reverse, after.reverse, ?_, ?_⟩
    · rw [← List.reverse_reverse fields, split]
      simp
    · intro member
      obtain ⟨field, among, rfl⟩ := List.mem_map.1 member
      exact bne_iff_ne.1 (absent field (List.mem_reverse.1 among)) rfl
  · rintro ⟨before, after, rfl, absent⟩
    refine ⟨after.reverse, before.reverse, by simp, fun field member => bne_iff_ne.2 ?_⟩
    rintro rfl
    exact absent (List.mem_map_of_mem (List.mem_reverse.1 member))

theorem lookup_eq_none_of_notMem {key : String} {fields : List (String × α)}
    (absent : key ∉ fields.map Prod.fst) : fields.lookup key = none := by
  rw [List.lookup_eq_none_iff]
  intro field member
  exact bne_iff_ne.2 fun same => absent (same ▸ List.mem_map_of_mem member)

theorem lookup_reverse {key : String} {fields : List (String × α)}
    (distinct : (fields.map Prod.fst).Nodup) :
    fields.reverse.lookup key = fields.lookup key := by
  induction fields with
  | nil => rfl
  | cons field rest inductionHypothesis =>
      obtain ⟨absent, restDistinct⟩ := List.nodup_cons.1 distinct
      rw [List.reverse_cons, List.lookup_append, inductionHypothesis restDistinct,
        lookup_cons_eq, lookup_cons_eq]
      by_cases isField : key = field.1
      · rw [if_pos isField, if_pos isField, lookup_eq_none_of_notMem (isField ▸ absent)]
        rfl
      · rw [if_neg isField, if_neg isField]
        exact Option.or_none

/-- What is put over a dictionary decides first. -/
theorem get?_overlay (base top : Dict α) (key : String) :
    (base.overlay top).get? key = (top.get? key).or (base.get? key) := by
  rw [overlay, get?_foldl_insert, lookup_reverse top.nodup_keys]
  rfl

/-- Dictionaries with the same values under all keys are the same. -/
theorem ext_get? {left right : Dict α} (same : ∀ key, left.get? key = right.get? key) :
    left = right := by
  have distinct (dict : Dict α) : dict.entries.Nodup := by
    refine dict.increasing.imp ?_
    intro one other below same
    exact String.lt_irrefl _ (same ▸ below)
  have mem_iff (dict : Dict α) (entry : String × α) :
      entry ∈ dict.entries ↔ dict.get? entry.1 = some entry.2 :=
    ⟨get?_of_mem_entries, mem_entries_of_get?⟩
  have permuted : left.entries.Perm right.entries := by
    rw [List.perm_ext_iff_of_nodup (distinct left) (distinct right)]
    intro entry
    rw [mem_iff, mem_iff, same]
  apply ext
  refine permuted.eq_of_pairwise ?_ left.increasing right.increasing
  intro one other _ _ below above
  exact absurd (String.lt_trans below above) (String.lt_irrefl _)

/-- Fields behind others are put over those. -/
theorem ofList_append (first second : List (String × α)) :
    ofList (first ++ second) = (ofList first).overlay (ofList second) := by
  apply ext_get?
  intro key
  rw [get?_overlay]
  simp only [get?_ofList_eq_reverse]
  rw [List.reverse_append, List.lookup_append]

/-- A field whose value is changed into nothing is left out, and no other field takes its
place. -/
theorem lookup_filterMap {β : Type v} (change : α → Option β) {key : String}
    {fields : List (String × α)} (distinct : (fields.map Prod.fst).Nodup) :
    (fields.filterMap fun field => (change field.2).map (field.1, ·)).lookup key =
      (fields.lookup key).bind change := by
  induction fields with
  | nil => rfl
  | cons field rest inductionHypothesis =>
      obtain ⟨absent, restDistinct⟩ := List.nodup_cons.1 distinct
      have later := inductionHypothesis restDistinct
      rw [lookup_cons_eq]
      cases changed : change field.2 with
      | none =>
          -- The key is not found further behind either, since no other field has it.
          rw [List.filterMap_cons_none (by rw [changed]; rfl), later]
          by_cases isField : key = field.1
          · rw [if_pos isField, lookup_eq_none_of_notMem (isField ▸ absent), Option.bind_some,
              changed]
            rfl
          · rw [if_neg isField]
      | some value =>
          rw [List.filterMap_cons_some (by rw [changed]; rfl), lookup_cons_eq, later]
          by_cases isField : key = field.1
          · rw [if_pos isField, if_pos isField, Option.bind_some, changed]
          · rw [if_neg isField, if_neg isField]

/-- A key has what its value is changed into. -/
theorem get?_ofList_filterMap {β : Type v} (dict : Dict α) (change : α → Option β)
    (key : String) :
    (ofList (dict.entries.filterMap fun field => (change field.2).map (field.1, ·))).get? key =
      (dict.get? key).bind change := by
  have distinct : (dict.entries.reverse.map Prod.fst).Nodup := by
    rw [List.map_reverse]
    exact List.pairwise_reverse.2 (dict.nodup_keys.imp Ne.symm)
  rw [get?_ofList_eq_reverse, ← List.filterMap_reverse, lookup_filterMap change distinct,
    lookup_reverse dict.nodup_keys]
  rfl

/-- A lookup in a dictionary made from a list without repetition is a lookup in the list. -/
theorem get?_ofList {key : String} {fields : List (String × α)}
    (distinct : (fields.map Prod.fst).Nodup) :
    (ofList fields).get? key = fields.lookup key := by
  rw [get?_ofList_eq_reverse, lookup_reverse distinct]

end Dict

end RequestFlow
