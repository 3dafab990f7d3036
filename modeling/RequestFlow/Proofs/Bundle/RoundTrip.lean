import RequestFlow.Bundle.Encoding
import RequestFlow.Bundle.Loading
import RequestFlow.Proofs.Document.JsonText
import RequestFlow.Proofs.Document.Record

/-!
Contract: bundles that are written and read again.

Owns: the law of reading and writing for every part of a bundle, and the proof that a
bundle which was read from a JSON document is read again from what it is written as.
-/

namespace RequestFlow

open Document Document.Decode Document.Decode.Fields

/-! ## Members that may be left out -/

section Members

variable {α : Type} {name key : String} {encode : α → Json}

theorem keys_append {left right : List (String × α)} {known more : List String}
    (first : (left.map Prod.fst).Sublist known) (second : (right.map Prod.fst).Sublist more) :
    ((left ++ right).map Prod.fst).Sublist (known ++ more) := by
  rw [List.map_append]
  exact first.append second

theorem keys_optionalMember (value : Option α) :
    ((optionalMember name encode value).map Prod.fst).Sublist [name] := by
  cases value <;> simp [optionalMember]

theorem keys_listMember (values : List α) :
    ((listMember name encode values).map Prod.fst).Sublist [name] := by
  cases values <;> simp [listMember]

theorem keys_dictMember (values : Dict α) :
    ((dictMember name encode values).map Prod.fst).Sublist [name] := by
  unfold dictMember
  split <;> simp

section Lookup

variable (different : key ≠ name)

include different

@[simp] theorem lookup_optionalMember_of_ne (value : Option α) :
    (optionalMember name encode value).lookup key = none := by
  cases value <;> simp [optionalMember, lookup_cons_eq, different]

@[simp] theorem lookup_listMember_of_ne (values : List α) :
    (listMember name encode values).lookup key = none := by
  cases values <;> simp [listMember, lookup_cons_eq, different]

@[simp] theorem lookup_dictMember_of_ne (values : Dict α) :
    (dictMember name encode values).lookup key = none := by
  unfold dictMember
  split <;> simp [lookup_cons_eq, different]

end Lookup

section Reading

variable {decode : Decoder α} {names : Names} {members : List (String × Json)}
  {fields reread : Fields} {index : Nat} (reads : reread.Reads names members)
  (plain : fields.FromJson)

include reads plain

theorem reads_optionalMember (name : String) {value : Option α}
    (found : fields.optional index (option decode) none = .found value)
    (field : RoundTrips (option decode) (Json.ofOption encode)) (named : names.At name index)
    (written : members.lookup name = (optionalMember name encode value).lookup name) :
    reread.optional index (option decode) none = .found value := by
  refine reads.optional plain name found field rfl named ?_
  cases value with
  | none => exact .inr ⟨written, rfl⟩
  | some value => exact .inl (by simpa [optionalMember, Json.ofOption] using written)

theorem reads_listMember (name : String) {values : List α}
    (found : fields.optional index (list decode) [] = .found values)
    (item : RoundTrips decode encode) (named : names.At name index)
    (written : members.lookup name = (listMember name encode values).lookup name) :
    reread.optional index (list decode) [] = .found values := by
  refine reads.optional plain name found (.list item) rfl named ?_
  cases values with
  | nil => exact .inr ⟨written, rfl⟩
  | cons => exact .inl (by simpa [listMember] using written)

theorem reads_dictMember (name : String) {values : Dict α}
    (found : fields.optional index (dict decode) ∅ = .found values)
    (field : RoundTrips decode encode) (named : names.At name index)
    (written : members.lookup name = (dictMember name encode values).lookup name) :
    reread.optional index (dict decode) ∅ = .found values := by
  refine reads.optional plain name found (.dict field) rfl named ?_
  by_cases isEmpty : values.isEmpty
  · rw [dictMember, if_pos isEmpty] at written
    exact .inr ⟨written, Dict.ext (List.isEmpty_iff.1 isEmpty)⟩
  · rw [dictMember, if_neg isEmpty] at written
    exact .inl (by simpa using written)

end Reading

end Members

/-! ## Rules and requests -/

theorem ExchangeSide.roundTrips :
    RoundTrips ExchangeSide.decode fun side => .string side.word :=
  .choice fun side => by cases side <;> rfl

theorem MessagePart.roundTrips :
    RoundTrips MessagePart.decode fun part => .string part.word :=
  .choice fun part => by cases part <;> rfl

theorem roundTrips_optionString : RoundTrips (option string) (Json.ofOption Json.string) :=
  .option .string fun _ _ _ _ _ _ => Json.noConfusion

theorem AssignmentRule.roundTrips : RoundTrips AssignmentRule.decode AssignmentRule.toJson := by
  refine .record (["name", "from", "in"] ++ ["path"]) (by decide) (by decide) ?_
  intro fields rule plain built
  simp only [Located.seq_eq_found_iff, Located.map_eq_found_iff] at built
  obtain ⟨_, ⟨_, ⟨_, ⟨name, hasName, rfl⟩, side, hasSide, rfl⟩, part, hasPart, rfl⟩, path, hasPath,
    rfl⟩ := built
  refine ⟨keys_append (List.Sublist.refl _) (keys_optionalMember path), fun reads => ?_⟩
  rw [reads.required plain hasName .string (by decide) (by simp),
    reads.required plain hasSide ExchangeSide.roundTrips (by decide) (by simp [lookup_cons_eq]),
    reads.required plain hasPart MessagePart.roundTrips (by decide) (by simp [lookup_cons_eq]),
    reads_optionalMember reads plain "path" hasPath roundTrips_optionString (by decide)
      (by simp [lookup_cons_eq])]
  rfl

theorem ResponseRules.roundTrips : RoundTrips ResponseRules.decode ResponseRules.toJson := by
  refine .record ["variableAssignments"] (by decide) (by decide) ?_
  intro fields rules plain built
  obtain ⟨assignments, hasAssignments, rfl⟩ := Located.map_eq_found_iff.1 built
  refine ⟨keys_listMember assignments, fun reads => ?_⟩
  rw [reads_listMember reads plain "variableAssignments" hasAssignments AssignmentRule.roundTrips
    (by decide) rfl]
  rfl

theorem Parameters.roundTrips : RoundTrips Parameters.decode Parameters.toJson := by
  refine .record (["path"] ++ ["query"] ++ ["header"] ++ ["cookie"]) (by decide) (by decide) ?_
  intro fields parameters plain built
  simp only [Located.seq_eq_found_iff, Located.map_eq_found_iff] at built
  obtain ⟨_, ⟨_, ⟨_, ⟨path, hasPath, rfl⟩, query, hasQuery, rfl⟩, header, hasHeader, rfl⟩,
    cookie, hasCookie, rfl⟩ := built
  refine ⟨keys_append (keys_append (keys_append (keys_dictMember path) (keys_dictMember query))
    (keys_dictMember header)) (keys_dictMember cookie), fun reads => ?_⟩
  rw [reads_dictMember reads plain "path" hasPath .json (by decide)
      (by simp [valuesMember, List.lookup_append]),
    reads_dictMember reads plain "query" hasQuery .json (by decide)
      (by simp [valuesMember, List.lookup_append]),
    reads_dictMember reads plain "header" hasHeader .json (by decide)
      (by simp [valuesMember, List.lookup_append]),
    reads_dictMember reads plain "cookie" hasCookie .json (by decide)
      (by simp [valuesMember, List.lookup_append])]
  rfl

theorem RequestBody.roundTrips : RoundTrips RequestBody.decode RequestBody.toJson := by
  refine .record (["mediaType"] ++ ["value"]) (by decide) (by decide) ?_
  intro fields body plain built
  simp only [Located.seq_eq_found_iff, Located.map_eq_found_iff] at built
  obtain ⟨_, ⟨mediaType, hasMediaType, rfl⟩, value, hasValue, rfl⟩ := built
  refine ⟨keys_append (keys_optionalMember mediaType) (List.Sublist.refl _), fun reads => ?_⟩
  rw [reads_optionalMember reads plain "mediaType" hasMediaType roundTrips_optionString
      (by decide) (by simp [List.lookup_append, lookup_cons_eq]),
    reads.required plain hasValue .json (by decide) (by simp [List.lookup_append])]
  rfl

theorem RequestTemplate.roundTrips :
    RoundTrips RequestTemplate.decode RequestTemplate.toJson := by
  refine .record (["method", "url", "parameters"] ++ ["body"]) (by decide) (by decide) ?_
  intro fields template plain built
  simp only [Located.seq_eq_found_iff, Located.map_eq_found_iff] at built
  obtain ⟨_, ⟨_, ⟨_, ⟨method, hasMethod, rfl⟩, url, hasUrl, rfl⟩, parameters, hasParameters, rfl⟩,
    body, hasBody, rfl⟩ := built
  have bodyRoundTrips : RoundTrips (option RequestBody.decode) (Json.ofOption RequestBody.toJson) :=
    .option RequestBody.roundTrips fun _ _ _ _ _ _ => Json.noConfusion
  refine ⟨keys_append (List.Sublist.refl _) (keys_optionalMember body), fun reads => ?_⟩
  rw [reads.required plain hasMethod .string (by decide) (by simp),
    reads.required plain hasUrl .string (by decide) (by simp [lookup_cons_eq]),
    reads.optional plain "parameters" hasParameters Parameters.roundTrips (by rfl) (by decide)
      (.inl (by simp [lookup_cons_eq])),
    reads_optionalMember reads plain "body" hasBody bodyRoundTrips (by decide)
      (by simp [lookup_cons_eq])]
  rfl

theorem StageContent.build_again {fields reread : Fields} {content : StageContent}
    (plain : fields.FromJson) (built : StageContent.build fields = .found content)
    (reads : reread.Reads StageContent.names content.members) :
    StageContent.build reread = .found content := by
  simp only [StageContent.build, Located.seq_eq_found_iff, Located.map_eq_found_iff] at built
  obtain ⟨_, ⟨_, ⟨_, ⟨_, ⟨operationId, hasOperationId, rfl⟩, request, hasRequest, rfl⟩, auth,
    hasAuth, rfl⟩, defaultResponse, hasDefaultResponse, rfl⟩, responses, hasResponses, rfl⟩ := built
  rw [StageContent.build,
    reads_optionalMember reads plain "operationId" hasOperationId roundTrips_optionString
      (by decide) (by simp [StageContent.members, List.lookup_append, lookup_cons_eq]),
    reads.required plain hasRequest RequestTemplate.roundTrips (by decide)
      (by simp [StageContent.members, List.lookup_append]),
    reads_listMember reads plain "auth" hasAuth .string (by decide)
      (by simp [StageContent.members, List.lookup_append, lookup_cons_eq]),
    reads_optionalMember reads plain "defaultResponse" hasDefaultResponse roundTrips_optionString
      (by decide) (by simp [StageContent.members, List.lookup_append, lookup_cons_eq]),
    reads_dictMember reads plain "responses" hasResponses ResponseRules.roundTrips
      (by decide) (by simp [StageContent.members, List.lookup_append, lookup_cons_eq])]
  rfl

/-- The names of the members of a content. -/
def StageContent.keys : List String :=
  ["operationId"] ++ ["request"] ++ ["auth"] ++ ["defaultResponse"] ++ ["responses"]

theorem StageContent.keys_members (content : StageContent) :
    (content.members.map Prod.fst).Sublist StageContent.keys :=
  keys_append (keys_append (keys_append (keys_append (keys_optionalMember _)
    (List.Sublist.refl _)) (keys_listMember _)) (keys_optionalMember _)) (keys_dictMember _)

theorem StageContent.roundTrips : RoundTrips StageContent.decode StageContent.toJson := by
  refine .record StageContent.keys (by decide) (by decide) ?_
  intro fields content plain built
  exact ⟨content.keys_members, StageContent.build_again plain built⟩

/-! ## Targets -/

def TargetKind.word : TargetKind → String
  | .operation => "operation"
  | .request => "request"
  | .credential => "credential"

def Target.kind : Target → TargetKind
  | .operation _ => .operation
  | .request _ => .request
  | .credential .. => .credential

/-- The members of a target apart from its kind, in their order. -/
def Target.members : Target → List (String × Json)
  | .operation id | .request id => [("id", .string id)]
  | .credential id method position =>
      [("id", .string id)] ++ optionalMember "method" Json.string method ++
        [("position", Json.ofNat position)]

/-- The names of the members of a target. -/
def Target.keys : List String := ["id"] ++ ["method"] ++ ["position"]

theorem Target.keys_members (target : Target) :
    (target.members.map Prod.fst).Sublist Target.keys := by
  cases target with
  | operation | request => simp [members, keys]
  | credential id method position =>
      exact keys_append (keys_append (.refl _) (keys_optionalMember method)) (.refl _)

/-- The kind comes last among the members of a target. -/
theorem Target.toJson_eq (target : Target) :
    target.toJson = .object (target.members ++ [("type", Json.string target.kind.word)]) := by
  cases target with
  | operation | request =>
      simp only [toJson, Json.ofFields, Dict.ofList, Dict.insert, Dict.empty, List.foldl_cons,
        List.foldl_nil, insertField, String.reduceLT, ↓reduceIte, members, kind, TargetKind.word,
        List.cons_append, List.nil_append]
  | credential id method position =>
      cases method <;>
        simp only [toJson, Json.ofFields, Dict.ofList, Dict.insert, Dict.empty, optionalMember,
          List.append_nil, List.foldl_cons, List.foldl_nil, insertField, String.reduceLT,
          String.reduceEq, ↓reduceIte, members, kind, TargetKind.word, List.cons_append,
          List.nil_append]

theorem TargetKind.decode_word (kind : TargetKind) :
    TargetKind.decode .tree (Node.string kind.word) = .ok kind := by
  cases kind <;> rfl

/-- A kind that comes last is split from the members before it. -/
theorem Target.splitFields_kind_last (kind : TargetKind) {entries : List (String × Json)}
    (apart : ∀ key ∈ entries.map Prod.fst, key ≠ "type") :
    Target.splitFields .tree none
      ((entries ++ [("type", Json.string kind.word)]).map Node.ofMember) none =
        .ok (kind, entries.map Node.ofMember) := by
  induction entries with
  | nil =>
      rw [List.nil_append, List.map_cons, Node.ofMember, splitFields]
      simp [Node.settle, Node.ofJson, TargetKind.decode_word, splitFields, Node.closed, Bind.bind,
        Except.bind]
  | cons entry rest inductionHypothesis =>
      obtain ⟨first, others⟩ := List.forall_mem_cons.1 apart
      rw [List.cons_append, List.map_cons, Node.ofMember, splitFields]
      simp only [Node.settle, Node.settle_ofJson, Bind.bind, Except.bind,
        inductionHypothesis others]
      split
      · next same => exact absurd (Node.string.inj same) first
      · rfl

theorem Target.fromJson_splitFields {dialect : Dialect} {kind? : Option TargetKind}
    {kind : TargetKind} {fields others : List (Node × Node)} {ending : Option Fault}
    (plain : ∀ field ∈ fields, field.2.FromJson)
    (done : Target.splitFields dialect kind? fields ending = .ok (kind, others)) :
    ∀ field ∈ others, field.2.FromJson := by
  induction fields generalizing kind? others with
  | nil =>
      cases kind? with
      | none =>
          obtain ⟨⟨⟩, -, done⟩ := except_bind_eq_ok_iff.1 done
          cases done
      | some found =>
          obtain ⟨⟨⟩, -, done⟩ := except_bind_eq_ok_iff.1 done
          cases done
          exact fun field member => nomatch member
  | cons field rest inductionHypothesis =>
      obtain ⟨first, restPlain⟩ := List.forall_mem_cons.1 plain
      obtain ⟨key, value⟩ := field
      obtain ⟨settledKey, -, done⟩ := except_bind_eq_ok_iff.1 done
      split at done
      · rw [if_pos rfl] at done
        split at done
        · cases done
        · obtain ⟨found, -, done⟩ := except_bind_eq_ok_iff.1 done
          exact inductionHypothesis restPlain done
      · obtain ⟨settled, valueSettled, done⟩ := except_bind_eq_ok_iff.1 done
        obtain ⟨⟨found, more⟩, restDone, done⟩ := except_bind_eq_ok_iff.1 done
        cases done
        exact List.forall_mem_cons.2
          ⟨first.settle valueSettled, inductionHypothesis restPlain restDone⟩

/-- The fields of a target are read again, and as those of its kind. -/
theorem Target.decodeFields_again {kind : TargetKind} {dialect : Dialect} {node : Node}
    {target : Target} (plain : node.FromJson)
    (done : Target.decodeFields kind dialect node = .ok target) :
    target.kind = kind ∧
      Target.decodeFields kind .tree (.mapping (target.members.map Node.ofMember) none) =
        .ok target := by
  have among := target.keys_members
  have distinct : (target.members.map Prod.fst).Nodup :=
    (show Target.keys.Nodup by decide).sublist among
  cases kind with
  | operation | request =>
      have spelled : ∀ key ∈ Target.keys, Names.Spelled [["id"]] key := by decide
      obtain ⟨fields, opened, done⟩ := except_bind_eq_ok_iff.1 done
      obtain ⟨id, hasId, rfl⟩ := Located.map_eq_found_iff.1 (build_eq_ok_iff.1 done).2
      have plainFields := fromJson_openFields plain opened
      refine ⟨rfl, record_written distinct (fun key member => spelled key (among.subset member))
        fun reads => ?_⟩
      rw [reads.required plainFields hasId .string (by decide) (by simp [members])]
      rfl
  | credential =>
      have spelled : ∀ key ∈ Target.keys,
          Names.Spelled [["id"], ["method"], ["position"]] key := by decide
      obtain ⟨fields, opened, done⟩ := except_bind_eq_ok_iff.1 done
      have built := (build_eq_ok_iff.1 done).2
      simp only [Located.seq_eq_found_iff, Located.map_eq_found_iff] at built
      obtain ⟨_, ⟨_, ⟨id, hasId, rfl⟩, method, hasMethod, rfl⟩, position, hasPosition, rfl⟩ := built
      have plainFields := fromJson_openFields plain opened
      refine ⟨rfl, record_written distinct (fun key member => spelled key (among.subset member))
        fun reads => ?_⟩
      rw [reads.required plainFields hasId .string (by decide) (by simp [members]),
        reads_optionalMember reads plainFields "method" hasMethod roundTrips_optionString
          (by decide) (by simp [members, List.lookup_append, lookup_cons_eq]),
        reads.optional plainFields "position" hasPosition (.natural maxPosition) (by rfl)
          (by decide) (.inl (by simp [members, List.lookup_append, lookup_cons_eq]))]
      rfl

/-- However a target is written, its fields are read apart from its kind. -/
theorem Target.decode_eq_ok {dialect : Dialect} {node : Node} {target : Target}
    (plain : node.FromJson) (done : Target.decode dialect node = .ok target) :
    ∃ kind fields, Node.FromJson fields ∧ Target.decodeFields kind .tree fields = .ok target := by
  cases plain with
  | @sequence items ending each =>
      cases items with
      | nil =>
          obtain ⟨⟨⟩, -, done⟩ := except_bind_eq_ok_iff.1 done
          cases done
      | cons first rest =>
          obtain ⟨kind, -, done⟩ := except_bind_eq_ok_iff.1 done
          obtain ⟨settled, restSettled, done⟩ := except_bind_eq_ok_iff.1 done
          obtain ⟨⟨⟩, -, done⟩ := except_bind_eq_ok_iff.1 done
          refine ⟨kind, .sequence settled none, ?_, done⟩
          have restPlain : Node.FromJson (.sequence rest none) :=
            .sequence _ (List.forall_mem_cons.1 each).2
          refine restPlain.settle ?_
          rw [Node.settle, restSettled]
          rfl
  | mapping ending each =>
      obtain ⟨⟨kind, others⟩, split, done⟩ := except_bind_eq_ok_iff.1 done
      exact ⟨kind, .mapping others none, .mapping _ (Target.fromJson_splitFields each split), done⟩
  | _ => cases done

theorem Target.roundTrips : RoundTrips Target.decode Target.toJson := by
  intro dialect node target plain done
  obtain ⟨kind, fields, fieldsPlain, read⟩ := Target.decode_eq_ok plain done
  obtain ⟨rfl, again⟩ := Target.decodeFields_again fieldsPlain read
  have apart : ∀ key ∈ target.members.map Prod.fst, key ≠ "type" := by
    intro key member isType
    have known := target.keys_members.subset member
    rw [isType] at known
    exact absurd known (by decide)
  rw [Recovers, Target.toJson_eq, Node.ofJson_object]
  exact except_bind_eq_ok_iff.2 ⟨_, Target.splitFields_kind_last target.kind apart, again⟩

/-! ## Stages -/

/-- The members of a stage. -/
def Stage.members : Stage → List (String × Json)
  | .reference target environment =>
      [("ref", target.toJson)] ++ valuesMember "environment" environment
  | .inline content environment => content.members ++ valuesMember "environment" environment

theorem Stage.toJson_eq (stage : Stage) : stage.toJson = Json.ofFields stage.members := by
  cases stage <;> rfl

theorem Stage.referenceRoundTrips : RoundTrips Stage.decodeReference Stage.toJson := by
  rw [show Stage.toJson = fun stage => Json.ofFields stage.members from funext Stage.toJson_eq]
  refine .record (["ref"] ++ ["environment"]) (by decide) (by decide) ?_
  intro fields stage plain built
  simp only [Located.seq_eq_found_iff, Located.map_eq_found_iff] at built
  obtain ⟨_, ⟨target, hasTarget, rfl⟩, environment, hasEnvironment, rfl⟩ := built
  refine ⟨keys_append (.refl _) (keys_dictMember environment), fun reads => ?_⟩
  rw [reads.required plain hasTarget Target.roundTrips (by decide) (by simp [members]),
    reads_dictMember reads plain "environment" hasEnvironment .json (by decide)
      (by simp [members, valuesMember, lookup_cons_eq])]
  rfl

/-- The names of the members of an inline stage. -/
def Stage.inlineKeys : List String := StageContent.keys ++ ["environment"]

theorem Stage.inlineRoundTrips : RoundTrips Stage.decodeInline Stage.toJson := by
  rw [show Stage.toJson = fun stage => Json.ofFields stage.members from funext Stage.toJson_eq]
  refine .flatRecord Stage.inlineKeys (by decide) (by decide) ?_
  intro fields stage plain built
  simp only [Located.seq_eq_found_iff, Located.map_eq_found_iff] at built
  obtain ⟨_, ⟨content, hasContent, rfl⟩, environment, hasEnvironment, rfl⟩ := built
  refine ⟨keys_append content.keys_members (keys_dictMember environment), fun reads => ?_⟩
  have apart : ∀ {name : String} {index : Nat}, StageContent.names.At name index →
      (valuesMember "environment" environment).lookup name = none := by
    intro name index named
    refine lookup_dictMember_of_ne ?_ environment
    rintro rfl
    exact absurd (named.1.symm.trans (show _ = none by decide)) (by simp)
  rw [StageContent.build_again plain hasContent (reads.narrow apart),
    reads_dictMember reads plain "environment" hasEnvironment .json (by decide)
      (by simp [members, valuesMember, StageContent.members, List.lookup_append, lookup_cons_eq])]
  rfl

/-- An inline stage is not taken for a reference. -/
theorem Stage.decodeReference_inline_ne_ok (content : StageContent) (environment : Dict Json)
    (stage : Stage) :
    Stage.decodeReference .tree (Node.ofJson (Stage.inline content environment).toJson) ≠
      .ok stage := by
  have isFirst : Names.At [["ref"], ["environment"]] "ref" 0 := by decide
  rw [Stage.toJson_eq]
  refine record_ne_ok_of_missing "ref" isFirst
    (keys_append content.keys_members (keys_dictMember environment)) (by decide) (by decide) ?_ ?_
  · simp [members, valuesMember, StageContent.members, List.lookup_append, lookup_cons_eq]
  · intro fields built
    simp only [Located.seq_eq_found_iff, Located.map_eq_found_iff] at built
    obtain ⟨_, ⟨target, hasTarget, rfl⟩, environment, hasEnvironment, rfl⟩ := built
    obtain ⟨node, present, -⟩ := required_eq_found_iff.1 hasTarget
    exact ⟨node, present⟩

/-- What is read as an inline stage is one. -/
theorem Stage.decodeInline_eq_ok {dialect : Dialect} {node : Node} {stage : Stage}
    (done : Stage.decodeInline dialect node = .ok stage) :
    ∃ content environment, stage = .inline content environment := by
  obtain ⟨⟨fields, ending⟩, -, done⟩ := except_bind_eq_ok_iff.1 done
  have built := (build_eq_ok_iff.1 done).2
  simp only [Located.seq_eq_found_iff, Located.map_eq_found_iff] at built
  obtain ⟨_, ⟨content, -, rfl⟩, environment, -, rfl⟩ := built
  exact ⟨content, environment, rfl⟩

/-- A stage keeps its kind: a reference is read as one before anything else is tried, and an
inline stage has no reference among its members. -/
theorem Stage.roundTrips : RoundTrips Stage.decode Stage.toJson := by
  intro dialect node stage plain done
  obtain ⟨settled, isSettled, done⟩ := except_bind_eq_ok_iff.1 done
  have settledPlain := plain.settle isSettled
  refine except_bind_eq_ok_iff.2 ⟨_, Node.settle_ofJson _, ?_⟩
  cases reference : Stage.decodeReference .tree settled with
  | ok found =>
      rw [reference] at done
      cases done
      rw [show Stage.decodeReference .tree _ = _ from
        Stage.referenceRoundTrips _ _ _ settledPlain reference]
  | error error =>
      rw [reference] at done
      cases inline : Stage.decodeInline .tree settled with
      | error other =>
          rw [inline] at done
          cases done
      | ok found =>
          rw [inline] at done
          cases done
          have again := Stage.inlineRoundTrips _ _ _ settledPlain inline
          obtain ⟨content, environment, rfl⟩ := Stage.decodeInline_eq_ok inline
          split
          · next other isReference =>
            exact absurd isReference (Stage.decodeReference_inline_ne_ok content environment other)
          · rw [show Stage.decodeInline .tree _ = _ from again]

/-! ## Operations and credentials -/

theorem Scenario.roundTrips : RoundTrips Scenario.decode Scenario.toJson := by
  refine .record ["key", "requests"] (by decide) (by decide) ?_
  intro fields scenario plain built
  simp only [Located.seq_eq_found_iff, Located.map_eq_found_iff] at built
  obtain ⟨_, ⟨key, hasKey, rfl⟩, requests, hasRequests, rfl⟩ := built
  refine ⟨.refl _, fun reads => ?_⟩
  rw [reads.required plain hasKey .string (by decide) (by simp),
    reads.optional plain "requests" hasRequests (.list Stage.roundTrips) (by rfl) (by decide)
      (.inl (by simp [lookup_cons_eq]))]
  rfl

theorem Operation.roundTrips : RoundTrips Operation.decode Operation.toJson := by
  refine .record ["operationId", "request", "before", "after", "scenarios", "authorizationTests"]
    (by decide) (by decide) ?_
  intro fields operation plain built
  simp only [Located.seq_eq_found_iff, Located.map_eq_found_iff] at built
  obtain ⟨_, ⟨_, ⟨_, ⟨_, ⟨_, ⟨operationId, hasOperationId, rfl⟩, request, hasRequest, rfl⟩, before,
    hasBefore, rfl⟩, after, hasAfter, rfl⟩, scenarios, hasScenarios, rfl⟩, tests, hasTests,
    rfl⟩ := built
  refine ⟨.refl _, fun reads => ?_⟩
  rw [reads.required plain hasOperationId .string (by decide) (by simp),
    reads.required plain hasRequest StageContent.roundTrips (by decide) (by simp [lookup_cons_eq]),
    reads.optional plain "before" hasBefore (.list Stage.roundTrips) (by rfl) (by decide)
      (.inl (by simp [lookup_cons_eq])),
    reads.optional plain "after" hasAfter (.list Stage.roundTrips) (by rfl) (by decide)
      (.inl (by simp [lookup_cons_eq])),
    reads.optional plain "scenarios" hasScenarios (.list Scenario.roundTrips) (by rfl) (by decide)
      (.inl (by simp [lookup_cons_eq])),
    reads.optional plain "authorizationTests" hasTests (.list .string) (by rfl) (by decide)
      (.inl (by simp [lookup_cons_eq, Json.ofStrings]))]
  rfl

theorem AuthorizationTest.roundTrips :
    RoundTrips AuthorizationTest.decode AuthorizationTest.toJson := by
  refine .record ["key", "source", "target"] (by decide) (by decide) ?_
  intro fields test plain built
  simp only [Located.seq_eq_found_iff, Located.map_eq_found_iff] at built
  obtain ⟨_, ⟨_, ⟨key, hasKey, rfl⟩, source, hasSource, rfl⟩, target, hasTarget, rfl⟩ := built
  refine ⟨.refl _, fun reads => ?_⟩
  rw [reads.required plain hasKey .string (by decide) (by simp),
    reads.optional plain "source" hasSource (.list .string) (by rfl) (by decide)
      (.inl (by simp [lookup_cons_eq, Json.ofStrings])),
    reads.optional plain "target" hasTarget (.list .string) (by rfl) (by decide)
      (.inl (by simp [lookup_cons_eq, Json.ofStrings]))]
  rfl

theorem CredentialKind.roundTrips :
    RoundTrips CredentialKind.decode fun kind => .string kind.word :=
  .choice fun kind => by cases kind <;> rfl

theorem CredentialPlace.roundTrips :
    RoundTrips CredentialPlace.decode fun place => .string place.word :=
  .choice fun place => by cases place <;> rfl

theorem CredentialMethod.roundTrips :
    RoundTrips CredentialMethod.decode CredentialMethod.toJson := by
  refine .record ["credential", "requests"] (by decide) (by decide) ?_
  intro fields method plain built
  simp only [Located.seq_eq_found_iff, Located.map_eq_found_iff] at built
  obtain ⟨_, ⟨credential, hasCredential, rfl⟩, requests, hasRequests, rfl⟩ := built
  refine ⟨(keys_listMember requests).cons_cons "credential", fun reads => ?_⟩
  rw [reads.required plain hasCredential .string (by decide) (by simp),
    reads_listMember reads plain "requests" hasRequests Stage.roundTrips (by decide)
      (by simp [lookup_cons_eq])]
  rfl

theorem Credential.roundTrips : RoundTrips Credential.decode Credential.toJson := by
  refine .record (["type"] ++ ["in"] ++ ["name"] ++ ["default", "methods"]) (by decide)
    (by decide) ?_
  intro fields credential plain built
  simp only [Located.seq_eq_found_iff, Located.map_eq_found_iff] at built
  obtain ⟨_, ⟨_, ⟨_, ⟨_, ⟨kind, hasKind, rfl⟩, place, hasPlace, rfl⟩, name, hasName, rfl⟩,
    defaultMethod, hasDefaultMethod, rfl⟩, methods, hasMethods, rfl⟩ := built
  have placeRoundTrips : RoundTrips (option CredentialPlace.decode)
      (Json.ofOption fun place => .string (CredentialPlace.word place)) :=
    .option CredentialPlace.roundTrips fun _ _ _ _ _ _ => Json.noConfusion
  refine ⟨keys_append (keys_append (keys_append (.refl _) (keys_optionalMember place))
    (keys_optionalMember name)) (.refl _), fun reads => ?_⟩
  rw [reads.required plain hasKind CredentialKind.roundTrips (by decide) (by simp),
    reads_optionalMember reads plain "in" hasPlace placeRoundTrips (by decide)
      (by simp [List.lookup_append, lookup_cons_eq]),
    reads_optionalMember reads plain "name" hasName roundTrips_optionString (by decide)
      (by simp [List.lookup_append, lookup_cons_eq]),
    reads.required plain hasDefaultMethod .string (by decide)
      (by simp [List.lookup_append, lookup_cons_eq]),
    reads.required plain hasMethods (.dict CredentialMethod.roundTrips) (by decide)
      (by simp [List.lookup_append, lookup_cons_eq])]
  rfl

/-! ## Environments and the bundle -/

theorem decodeSource_roundTrips : RoundTrips decodeSource fun _ => .string "environment" :=
  .choice fun _ => rfl

theorem EnvironmentVariable.roundTrips :
    RoundTrips EnvironmentVariable.decode EnvironmentVariable.toJson := by
  refine .record (["from", "name", "required"] ++ ["default"]) (by decide) (by decide) ?_
  intro fields declared plain built
  simp only [Located.seq_eq_found_iff, Located.map_eq_found_iff] at built
  obtain ⟨_, ⟨_, ⟨_, ⟨source, hasSource, rfl⟩, name, hasName, rfl⟩, required, hasRequired, rfl⟩,
    fallback, hasFallback, rfl⟩ := built
  have fallbackRoundTrips : RoundTrips (option json) (Json.ofOption id) :=
    .option .json fun _ _ _ nodePlain isValue read => nodePlain.toJson_ne_null isValue read
  refine ⟨keys_append (.refl _) (keys_optionalMember fallback),
    fun reads => ?_⟩
  rw [reads.optional plain "from" hasSource decodeSource_roundTrips (by rfl) (by decide)
      (.inl (by simp)),
    reads.required plain hasName .string (by decide) (by simp [lookup_cons_eq]),
    reads.optional plain "required" hasRequired .bool (by rfl) (by decide)
      (.inl (by simp [lookup_cons_eq])),
    reads_optionalMember reads plain "default" hasFallback fallbackRoundTrips (by decide)
      (by simp [lookup_cons_eq])]
  rfl

theorem Environment.roundTrips : RoundTrips Environment.decode Environment.toJson := by
  refine .record ["variables"] (by decide) (by decide) ?_
  intro fields environment plain built
  obtain ⟨declarations, hasDeclarations, rfl⟩ := Located.map_eq_found_iff.1 built
  refine ⟨.refl _, fun reads => ?_⟩
  rw [reads.optional plain "variables" hasDeclarations (.dict EnvironmentVariable.roundTrips)
    (by rfl) (by decide) (.inl (by simp))]
  rfl

theorem Bundle.roundTrips : RoundTrips Bundle.decode Bundle.toJson := by
  refine .record ["operations", "requests", "authenticationDetails", "before", "after",
    "environments", "authorizationTests"] (by decide) (by decide) ?_
  intro fields bundle plain built
  simp only [Located.seq_eq_found_iff, Located.map_eq_found_iff] at built
  obtain ⟨_, ⟨_, ⟨_, ⟨_, ⟨_, ⟨_, ⟨operations, hasOperations, rfl⟩, requests, hasRequests, rfl⟩,
    groups, hasGroups, rfl⟩, before, hasBefore, rfl⟩, after, hasAfter, rfl⟩, environments,
    hasEnvironments, rfl⟩, tests, hasTests, rfl⟩ := built
  refine ⟨.refl _, fun reads => ?_⟩
  rw [reads.optional plain "operations" hasOperations (.dict Operation.roundTrips) (by rfl)
      (by decide) (.inl (by simp)),
    reads.optional plain "requests" hasRequests (.dict StageContent.roundTrips) (by rfl)
      (by decide) (.inl (by simp [lookup_cons_eq])),
    reads.optional plain "authenticationDetails" hasGroups (.list (.dict Credential.roundTrips))
      (by rfl) (by decide) (.inl (by simp [lookup_cons_eq])),
    reads.optional plain "before" hasBefore (.list Stage.roundTrips) (by rfl) (by decide)
      (.inl (by simp [lookup_cons_eq])),
    reads.optional plain "after" hasAfter (.list Stage.roundTrips) (by rfl) (by decide)
      (.inl (by simp [lookup_cons_eq])),
    reads.optional plain "environments" hasEnvironments (.dict Environment.roundTrips) (by rfl)
      (by decide) (.inl (by simp [lookup_cons_eq])),
    reads.optional plain "authorizationTests" hasTests (.dict AuthorizationTest.roundTrips)
      (by rfl) (by decide) (.inl (by simp [lookup_cons_eq]))]
  rfl

/-! ## Normal forms -/

/-- How the bundle that a value describes is written. -/
def Bundle.normalForm (value : Json) : Except DecodeError Json :=
  (Bundle.ofJson value).map Bundle.toJson

/-- A bundle that was read from a JSON value, or from a JSON text, is read again from what it is
written as, so that nothing is changed by another round. -/
theorem Bundle.json_form_is_normal :
    (∀ value bundle, Bundle.ofJson value = .ok bundle →
      Bundle.ofJson bundle.toJson = .ok bundle) ∧
    (∀ text parsed, ParsedBundle.ofJsonText text = .ok parsed →
      Bundle.ofJson parsed.bundle.toJson = .ok parsed.bundle) ∧
    ∀ value normal, Bundle.normalForm value = .ok normal →
      Bundle.normalForm normal = .ok normal := by
  have again : ∀ value bundle, Bundle.ofJson value = .ok bundle →
      Bundle.ofJson bundle.toJson = .ok bundle := by
    intro value bundle read
    exact Bundle.roundTrips _ _ _ (Node.fromJson_ofJson value) read
  refine ⟨again, fun text parsed read => ?_, fun value normal written => ?_⟩
  · unfold ParsedBundle.ofJsonText at read
    split at read
    · next bundle decoded =>
      cases read
      obtain ⟨found, fromRoot, complete⟩ := except_bind_eq_ok_iff.1 decoded
      split at complete
      · cases complete
      · cases complete
        exact Bundle.roundTrips _ _ _ (JsonText.fromJson_parse text) fromRoot
    · cases read
  · unfold Bundle.normalForm at written ⊢
    cases read : Bundle.ofJson value with
    | error error =>
        rw [read] at written
        cases written
    | ok bundle =>
        rw [read] at written
        cases written
        rw [again value bundle read]
        rfl

/-- An operation as a list of its fields. It has a rule with another spelling, an optional value
that is null, a member that nobody reads, a reference, and a stage that looks like one. -/
def looseDocument : Json :=
  .object [
    ("operations", .object [
      ("create", .array [.string "create",
        .object [("operationId", .null),
          ("request", .array [.string "POST", .string "host/users"]),
          ("responses", .object [("2XX", .array [.array [
            .object [("location", .string "body"), ("name", .string "id"),
              ("from", .string "response"), ("path", .null)]]])]),
          ("note", .bool true)],
        .array [.object [
          ("ref", .object [("id", .string "login"), ("type", .string "credential")]),
          ("environment", .object [])]],
        .array [.object [("ref", .null),
          ("request", .array [.string "DELETE", .string "host/users/1"])]]])]),
    ("version", .number (.int 1))]

def looseBundle : Bundle :=
  { Bundle.empty with
    operations := Dict.ofList [("create",
      { operationId := "create"
        request :=
          { operationId := none
            request := ⟨"POST", "host/users", Parameters.none, none⟩
            auth := []
            defaultResponse := none
            responses := Dict.ofList [("2XX", ⟨[⟨"id", .response, .body, none⟩]⟩)] }
        before := [.reference (.credential "login" none 0) ∅]
        after := [.inline
          ⟨none, ⟨"DELETE", "host/users/1", Parameters.none, none⟩, [], none, ∅⟩ ∅]
        scenarios := []
        authorizationTests := [] })] }

theorem looseDocument_normalForm :
    Bundle.ofJson looseDocument = .ok looseBundle ∧ looseBundle.toJson ≠ looseDocument ∧
      Bundle.ofJson looseBundle.toJson = .ok looseBundle ∧
      Bundle.normalForm looseBundle.toJson = .ok looseBundle.toJson ∧
      ParsedBundle.ofJsonText "[\x7b\x7d]" = .ok ⟨Bundle.empty, .json⟩ ∧
      Bundle.ofJson Bundle.empty.toJson = .ok Bundle.empty := by
  obtain ⟨value, text, normal⟩ := Bundle.json_form_is_normal
  have read : Bundle.ofJson looseDocument = .ok looseBundle :=
    except_eq_ok_of_toOption (by decide +kernel)
  have different : looseBundle.toJson ≠ looseDocument := by decide +kernel
  have written : Bundle.normalForm looseDocument = .ok looseBundle.toJson := by
    rw [Bundle.normalForm, read, Except.map]
  have parsed : ParsedBundle.ofJsonText "[\x7b\x7d]" = .ok ⟨Bundle.empty, .json⟩ :=
    except_eq_ok_of_toOption (by decide +kernel)
  have parsedAgain := text _ _ parsed
  exact ⟨read, different, value _ _ read, normal _ _ written, parsed, parsedAgain⟩

end RequestFlow
