import RequestFlow.Proofs.Document.RoundTrip

/-!
Contract: records that are read again as they were, once they are written as objects.

Owns: the laws of located results; the fields of a written object, where each member is
found under the name it was written with; and the law of a reading and a writing for
records, from what holds of each of their fields.

A field may have several spellings, and a written object uses the first one. Whether a
member is left out is for the record to say: it may be if the value is the one that stands
for an absent field.
-/

namespace RequestFlow.Document

namespace Decode

/-! ## Located results -/

namespace Located

variable {α β : Type}

theorem map_eq_found_iff {function : α → β} {argument : Located α} {result : β} :
    function <$> argument = .found result ↔
      ∃ value, argument = .found value ∧ function value = result := by
  cases argument with
  | found value => simp [Functor.map, map]
  | failed place error => simp [Functor.map, map]

/-- Both results are there when each of them is. -/
theorem both_eq_found_iff {left : Located α} {right : Located β} {results : α × β} :
    both left right = .found results ↔ left = .found results.1 ∧ right = .found results.2 := by
  cases left with
  | found first =>
      cases right with
      | found second => simp [both, Prod.ext_iff]
      | failed place error => simp [both]
  | failed place error =>
      cases right with
      | found second => simp [both]
      | failed other second =>
          simp only [both, reduceCtorEq, false_and, iff_false]
          split <;> simp

theorem seq_eq_found_iff {function : Located (α → β)} {argument : Located α} {result : β} :
    function <*> argument = .found result ↔
      ∃ change, function = .found change ∧ ∃ value, argument = .found value ∧
        change value = result := by
  show _ <$> both function argument = _ ↔ _
  rw [map_eq_found_iff]
  simp only [both_eq_found_iff, Prod.exists]
  constructor
  · rintro ⟨change, value, ⟨isChange, isValue⟩, same⟩
    exact ⟨change, isChange, value, isValue, same⟩
  · rintro ⟨change, isChange, value, isValue, same⟩
    exact ⟨change, value, ⟨isChange, isValue⟩, same⟩

theorem ofExcept_eq_found_iff {place : Nat} {result : Except DecodeError α} {value : α} :
    ofExcept place result = .found value ↔ result = .ok value := by
  cases result <;> simp [ofExcept]

end Located

/-! ## Names of fields -/

namespace Names

/-- The index of the field that a key names. -/
def index? (names : Names) (key : String) : Option Nat := names.findIdx? (·.contains key)

/-- A name is the first spelling of the field at an index. -/
def At (names : Names) (name : String) (index : Nat) : Prop :=
  names.index? name = some index ∧ names[index]?.bind List.head? = some name

/-- A key names a field by its first spelling, or names none. -/
def Spelled (names : Names) (key : String) : Prop :=
  ∀ index ∈ names.index? key, names[index]?.bind List.head? = some key

instance (names : Names) (name : String) (index : Nat) : Decidable (names.At name index) :=
  inferInstanceAs (Decidable (_ ∧ _))

instance (names : Names) (key : String) : Decidable (names.Spelled key) :=
  inferInstanceAs (Decidable (∀ index ∈ names.index? key,
    names[index]?.bind List.head? = some key))

variable {names : Names} {key other : String} {index : Nat}

theorem Spelled.at (spelled : names.Spelled key) (found : names.index? key = some index) :
    names.At key index :=
  ⟨found, spelled index found⟩

theorem At.name_eq (first : names.At key index) (second : names.At other index) :
    key = other :=
  Option.some.inj (first.2.symm.trans second.2)

/-- The names of a record keep their places when more names follow. -/
theorem At.append {more : Names} (named : names.At key index) :
    Names.At (names ++ more) key index := by
  obtain ⟨found, first⟩ := named
  have within : index < names.length := by
    refine Nat.lt_of_not_ge fun beyond => ?_
    rw [List.getElem?_eq_none beyond] at first
    cases first
  constructor
  · rw [index?, List.findIdx?_append, show names.findIdx? _ = some index from found]
    rfl
  · rw [List.getElem?_append_left within]
    exact first

end Names

/-! ## Fields -/

namespace Fields

/-- The entry for a field, apart from its place. -/
def node? (fields : Fields) (index : Nat) : Option Node := (fields.find? index).map Prod.snd

theorem node?_eq (fields : Fields) (index : Nat) :
    fields.node? index =
      (fields.entries.find? fun entry => entry.1 == some index).map Prod.snd := by
  have places : fields.entries.find? (fun entry => entry.1 == some index) =
      (fields.entries.zipIdx.find? fun entry => entry.1.1 == some index).map Prod.fst := by
    have paired := List.find?_map (p := fun entry : Option Nat × Node => entry.1 == some index)
      (f := Prod.fst) (l := fields.entries.zipIdx)
    rwa [List.zipIdx_map_fst] at paired
  rw [node?, find?, places, Option.map_map, Option.map_map]
  rfl

theorem required_eq_found_iff {α : Type} {fields : Fields} {index : Nat} {name : String}
    {decode : Decoder α} {value : α} :
    fields.required index name decode = .found value ↔
      ∃ node, fields.node? index = some node ∧ decode fields.dialect node = .ok value := by
  unfold required node?
  cases fields.find? index with
  | none =>
      constructor
      · intro same
        cases same
      · rintro ⟨node, missing, -⟩
        cases missing
  | some entry =>
      simp only [Option.map_some, Option.some.injEq, exists_eq_left',
        Located.ofExcept_eq_found_iff]

theorem optional_eq_found_iff {α : Type} {fields : Fields} {index : Nat}
    {decode : Decoder α} {absent value : α} :
    fields.optional index decode absent = .found value ↔
      (fields.node? index = none ∧ value = absent) ∨
        ∃ node, fields.node? index = some node ∧ decode fields.dialect node = .ok value := by
  unfold optional node?
  cases fields.find? index with
  | none =>
      simp [eq_comm]
  | some entry =>
      simp [Located.ofExcept_eq_found_iff]

theorem build_eq_ok_iff {α : Type} {names : Names} {fields : Fields}
    {value : Fields → Located α} {result : α} :
    fields.build names value = .ok result ↔
      fields.check names = .found () ∧ value fields = .found result := by
  have both : Located.both (fields.check names) (value fields) = .found ((), result) ↔ _ :=
    Located.both_eq_found_iff
  rw [← both, build]
  cases Located.both (fields.check names) (value fields) with
  | found found => simp [Prod.ext_iff]
  | failed place error => simp

end Fields

/-! ## Written objects -/

/-- The fields of a record in an object with some members. -/
def writtenFields (names : Names) (entries : List (String × Json)) : Fields :=
  ⟨.tree, entries.map fun entry => (names.index? entry.1, Node.ofJson entry.2), none, false⟩

section Entries

variable {names : Names} {entries : List (String × Json)}
  (spelled : ∀ key ∈ entries.map Prod.fst, names.Spelled key)

theorem mappingFields_ofMember (numbered : Bool) :
    mappingFields .tree names numbered (entries.map Node.ofMember) none =
      writtenFields names entries := by
  induction entries with
  | nil => rfl
  | cons entry rest inductionHypothesis =>
      rw [List.map_cons, Node.ofMember, mappingFields, inductionHypothesis]
      rfl

include spelled

/-- No field is given twice when no name is, and members that nobody reads do no harm. -/
theorem check_go_written (fields : Fields) (complete : fields.ending = none)
    (distinct : (entries.map Prod.fst).Nodup) (seen : List Nat)
    (fresh : ∀ key ∈ entries.map Prod.fst, ∀ index ∈ names.index? key, index ∉ seen)
    (place : Nat) :
    Fields.check.go names fields seen place (writtenFields names entries).entries =
      .found () := by
  induction entries generalizing seen place with
  | nil => simp only [writtenFields, List.map_nil, Fields.check.go, complete]
  | cons entry rest inductionHypothesis =>
      obtain ⟨absent, restDistinct⟩ := List.nodup_cons.1 distinct
      obtain ⟨entrySpelled, restSpelled⟩ := List.forall_mem_cons.1 spelled
      obtain ⟨entryFresh, restFresh⟩ := List.forall_mem_cons.1 fresh
      rw [writtenFields, List.map_cons]
      cases named : names.index? entry.1 with
      | none =>
          rw [Fields.check.go, Node.skip_ofJson]
          exact inductionHypothesis restSpelled restDistinct seen restFresh (place + 1)
      | some index =>
          rw [Fields.check.go, if_neg (by simpa using entryFresh index named)]
          refine inductionHypothesis restSpelled restDistinct _ ?_ (place + 1)
          -- Of two keys for one field each is its first spelling, so that they are the same.
          intro key member other found isSeen
          rcases List.mem_cons.1 isSeen with rfl | before
          · have same := (entrySpelled.at named).name_eq ((restSpelled key member).at found)
            exact absent (same ▸ member)
          · exact restFresh key member other found before

theorem check_written (distinct : (entries.map Prod.fst).Nodup) :
    (writtenFields names entries).check names = .found () :=
  check_go_written spelled _ rfl distinct [] (fun _ _ _ _ => List.not_mem_nil) 0

/-- A field of a record is found where the object has the member of its name. -/
theorem node?_written {name : String} {index : Nat} (named : names.At name index) :
    (writtenFields names entries).node? index = (entries.lookup name).map Node.ofJson := by
  rw [Fields.node?_eq, writtenFields]
  induction entries with
  | nil => rfl
  | cons entry rest inductionHypothesis =>
      obtain ⟨entrySpelled, restSpelled⟩ := List.forall_mem_cons.1 spelled
      rw [lookup_cons_eq, List.map_cons]
      by_cases isName : name = entry.1
      · subst isName
        rw [if_pos rfl, List.find?_cons_of_pos (by simpa using named.1)]
        rfl
      · have elsewhere : names.index? entry.1 ≠ some index := fun found =>
          isName (named.name_eq (entrySpelled.at found))
        rw [if_neg isName, List.find?_cons_of_neg (by simpa using elsewhere)]
        exact inductionHypothesis restSpelled

end Entries

/-! ## Fields of written objects -/

namespace Fields

/-- The fields stand in a settled tree, where some object had the given members. -/
structure Reads (fields : Fields) (names : Names) (members : List (String × Json)) : Prop where
  dialect : fields.dialect = .tree
  node : ∀ {name : String} {index : Nat}, names.At name index →
    fields.node? index = (members.lookup name).map Node.ofJson

/-- The fields stand in a JSON document. -/
def FromJson (fields : Fields) : Prop := ∀ entry ∈ fields.entries, entry.2.FromJson

theorem FromJson.node {fields : Fields} {index : Nat} {node : Node} (plain : fields.FromJson)
    (found : fields.node? index = some node) : node.FromJson := by
  rw [node?_eq] at found
  obtain ⟨entry, first, rfl⟩ := Option.map_eq_some_iff.1 found
  exact plain entry (List.mem_of_find?_eq_some first)

/-- A member is written for a value, or it is left out for the value of an absent field. -/
def Written {α : Type} (members : List (String × Json)) (name : String) (encode : α → Json)
    (absent value : α) : Prop :=
  members.lookup name = some (encode value) ∨ members.lookup name = none ∧ value = absent

/-- Fields that share an object with those of another record are found in it. -/
theorem Reads.narrow {fields : Fields} {names more : Names} {members extra : List (String × Json)}
    (reads : fields.Reads (names ++ more) (members ++ extra))
    (apart : ∀ {name : String} {index : Nat}, names.At name index → extra.lookup name = none) :
    fields.Reads names members := by
  refine ⟨reads.dialect, fun named => ?_⟩
  rw [reads.node named.append, List.lookup_append, apart named, Option.or_none]

section Reading

variable {α : Type} {decode : Decoder α} {encode : α → Json} {names : Names}
  {members : List (String × Json)} {fields reread : Fields} {name : String} {index : Nat}
  {value absent : α}

theorem Reads.node_eq {member : Json} (reads : reread.Reads names members)
    (named : names.At name index) (written : members.lookup name = some member) :
    reread.node? index = some (Node.ofJson member) := by
  rw [reads.node named, written, Option.map_some]

theorem Reads.required (reads : reread.Reads names members) (plain : fields.FromJson)
    (found : fields.required index name decode = .found value) (field : RoundTrips decode encode)
    (named : names.At name index) (written : members.lookup name = some (encode value)) :
    reread.required index name decode = .found value := by
  obtain ⟨node, present, read⟩ := required_eq_found_iff.1 found
  refine required_eq_found_iff.2 ⟨_, reads.node_eq named written, ?_⟩
  rw [reads.dialect]
  exact field _ _ _ (plain.node present) read

theorem Reads.optional (reads : reread.Reads names members) (plain : fields.FromJson)
    (name : String) (found : fields.optional index decode absent = .found value)
    (field : RoundTrips decode encode) (recovers : Recovers decode encode absent)
    (named : names.At name index) (written : Written members name encode absent value) :
    reread.optional index decode absent = .found value := by
  rcases written with present | ⟨missing, rfl⟩
  · refine optional_eq_found_iff.2 (.inr ⟨_, reads.node_eq named present, ?_⟩)
    rw [reads.dialect]
    rcases optional_eq_found_iff.1 found with ⟨-, rfl⟩ | ⟨node, given, read⟩
    · exact recovers
    · exact field _ _ _ (plain.node given) read
  · refine optional_eq_found_iff.2 (.inl ⟨?_, rfl⟩)
    rw [reads.node named, missing, Option.map_none]

end Reading

end Fields

/-! ## Records -/

theorem fromJson_mappingFields {dialect : Dialect} {names : Names} {numbered : Bool}
    {fields : List (Node × Node)} {ending : Option Fault}
    (plain : ∀ field ∈ fields, field.2.FromJson) :
    (mappingFields dialect names numbered fields ending).FromJson := by
  induction fields with
  | nil => exact fun entry member => nomatch member
  | cons field rest inductionHypothesis =>
      obtain ⟨first, others⟩ := List.forall_mem_cons.1 plain
      rw [mappingFields]
      split
      · exact fun entry member => nomatch member
      · exact List.forall_mem_cons.2 ⟨first, inductionHypothesis others⟩

/-- The fields of a record are the items of a sequence, or they are those of a mapping. -/
theorem openFields_eq_ok {dialect : Dialect} {names : Names} {node : Node} {fields : Fields}
    (opened : openFields dialect names node = .ok fields) :
    (∃ items ending, node = .sequence items ending ∧
      fields = sequenceFields dialect names items ending) ∨
    ∃ found, openMapping node = .ok found ∧
      fields = mappingFields dialect names (dialect == .tree) found.1 found.2 := by
  unfold openFields at opened
  split at opened
  · cases opened
    exact .inl ⟨_, _, rfl, rfl⟩
  · cases opened
    exact .inl ⟨_, _, rfl, rfl⟩
  · obtain ⟨found, foundOpen, opened⟩ := except_bind_eq_ok_iff.1 opened
    cases opened
    exact .inr ⟨found, foundOpen, rfl⟩

theorem fromJson_openFields {dialect : Dialect} {names : Names} {node : Node} {fields : Fields}
    (plain : node.FromJson) (opened : openFields dialect names node = .ok fields) :
    fields.FromJson := by
  rcases openFields_eq_ok opened with ⟨items, ending, rfl, rfl⟩ | ⟨found, foundOpen, rfl⟩
  · have each := plain.openSequence rfl
    intro entry member
    obtain ⟨⟨item, index⟩, among, rfl⟩ := List.mem_map.1 member
    exact each item (List.mem_of_mem_take (List.fst_mem_of_mem_zipIdx among))
  · exact fromJson_mappingFields (plain.openMapping foundOpen)

end Decode

section Record

open Decode

variable {α : Type} {names : Names} {value : Fields → Located α}

/-- What is read from the fields of a written object. -/
theorem build_written {entries : List (String × Json)} {result : α}
    (distinct : (entries.map Prod.fst).Nodup)
    (spelled : ∀ key ∈ entries.map Prod.fst, names.Spelled key)
    (found : ∀ {reread : Fields}, reread.Reads names entries → value reread = .found result) :
    (writtenFields names entries).build names value = .ok result :=
  Fields.build_eq_ok_iff.2 ⟨check_written spelled distinct, found ⟨rfl, node?_written spelled⟩⟩

/-- A record is read from a mapping that stands for an object. -/
theorem record_written {entries : List (String × Json)} {result : α}
    (distinct : (entries.map Prod.fst).Nodup)
    (spelled : ∀ key ∈ entries.map Prod.fst, names.Spelled key)
    (found : ∀ {reread : Fields}, reread.Reads names entries → value reread = .found result) :
    record names value .tree (.mapping (entries.map Node.ofMember) none) = .ok result :=
  except_bind_eq_ok_iff.2 ⟨_, congrArg Except.ok (mappingFields_ofMember true),
    build_written distinct spelled found⟩

theorem openFields_written (names : Names) (members : List (String × Json)) :
    openFields .tree names (Node.ofJson (Json.ofFields members)) =
      .ok (writtenFields names (Dict.ofList members).entries) := by
  rw [Json.ofFields, Node.ofJson_object]
  exact congrArg Except.ok (mappingFields_ofMember true)

/-- A record that needs a member is not read from an object without it. -/
theorem record_ne_ok_of_missing {known : List String} {members : List (String × Json)}
    {index : Nat} {result : α} (name : String) (named : names.At name index)
    (among : (members.map Prod.fst).Sublist known) (distinct : known.Nodup)
    (spelled : ∀ key ∈ known, names.Spelled key) (missing : members.lookup name = none)
    (needed : ∀ {fields : Fields}, value fields = .found result →
      ∃ node, fields.node? index = some node) :
    Decode.record names value .tree (Node.ofJson (Json.ofFields members)) ≠ .ok result := by
  intro done
  obtain ⟨fields, opened, done⟩ := except_bind_eq_ok_iff.1 done
  rw [openFields_written] at opened
  cases opened
  obtain ⟨node, present⟩ := needed (Fields.build_eq_ok_iff.1 done).2
  have absent : (Dict.ofList members).entries.lookup name = none :=
    (Dict.get?_ofList (distinct.sublist among)).trans missing
  rw [node?_written (fun key member =>
    spelled key (among.subset ((Dict.mem_keys_ofList _).1 member))) named, absent] at present
  cases present

variable {members : α → List (String × Json)} (known : List String) (distinct : known.Nodup)
  (spelled : ∀ key ∈ known, names.Spelled key)
  (again : ∀ {fields : Fields} {result : α}, fields.FromJson → value fields = .found result →
    ((members result).map Prod.fst).Sublist known ∧
      ∀ {reread : Fields}, reread.Reads names (members result) → value reread = .found result)

include distinct spelled again

theorem build_again {fields : Fields} {result : α} (plain : fields.FromJson)
    (done : value fields = .found result) :
    (writtenFields names (Dict.ofList (members result)).entries).build names value =
      .ok result := by
  obtain ⟨among, found⟩ := again plain done
  refine build_written (Dict.nodup_keys _) ?_ fun reads => found ⟨reads.dialect, fun named => ?_⟩
  · intro key member
    exact spelled key (among.subset ((Dict.mem_keys_ofList _).1 member))
  · rw [reads.node named]
    exact congrArg (Option.map Node.ofJson) (Dict.get?_ofList (distinct.sublist among))

/-- A record is read again when each of its fields is. -/
theorem RoundTrips.record :
    RoundTrips (Decode.record names value) fun result => Json.ofFields (members result) := by
  intro dialect node result plain done
  obtain ⟨fields, opened, done⟩ := except_bind_eq_ok_iff.1 done
  have found := (Fields.build_eq_ok_iff.1 done).2
  have rebuilt := build_again known distinct spelled again (fromJson_openFields plain opened) found
  exact except_bind_eq_ok_iff.2 ⟨_, openFields_written names _, rebuilt⟩

/-- A record that shares its mapping with another one is read again when its fields are. -/
theorem RoundTrips.flatRecord :
    RoundTrips (Decode.flatRecord names value) fun result => Json.ofFields (members result) := by
  intro dialect node result plain done
  obtain ⟨⟨fields, ending⟩, opened, done⟩ := except_bind_eq_ok_iff.1 done
  have found := (Fields.build_eq_ok_iff.1 done).2
  have rebuilt := build_again known distinct spelled again
    (fromJson_mappingFields (plain.openMapping opened)) found
  rw [Recovers, Json.ofFields, Node.ofJson_object]
  refine except_bind_eq_ok_iff.2 ⟨(_, none), rfl, ?_⟩
  show (mappingFields .tree names false _ none).build names value = _
  rw [mappingFields_ofMember, rebuilt]

end Record

end RequestFlow.Document
