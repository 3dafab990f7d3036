import RequestFlow.Proofs.Request.Headers

/-!
Contract: the text of a body and the media type it is sent with.

Owns: the values whose JSON text is not their plain text; a media type as its kind and its
parameters, and when it is a JSON type; when parameters leave the body as it is without them, and
when the body is JSON text just for a JSON type.

A body is JSON text if its media type, as it is written, starts with `application/json` or ends
with `+json`. So the start looks at the kind and nothing else, and the end looks at the
parameters wherever there are some.
-/

namespace RequestFlow

open Text

/-! ## The two texts of a value -/

namespace Json

theorem length_le_length_escaped (text : List Char) :
    text.length ≤ (text.flatMap escapeChar).length := by
  have escaped (char : Char) : 1 ≤ (escapeChar char).length := by
    unfold escapeChar
    repeat' split
    all_goals exact Nat.succ_pos _
  induction text with
  | nil => exact Nat.le_refl 0
  | cons char rest inductionHypothesis =>
      rw [List.flatMap_cons, List.length_append, List.length_cons, Nat.add_comm]
      exact Nat.add_le_add (escaped char) inductionHypothesis

theorem quoted_ne_self (text : String) : quoted text ≠ text := by
  intro same
  have lengths := congrArg (fun text : String => text.toList.length) same
  have longer := length_le_length_escaped text.toList
  simp only [quoted, String.toList_ofList, List.length_append, List.length_cons] at lengths
  omega

/-- Strings and null. -/
def IsTextual (value : Json) : Prop := value = .null ∨ ∃ text, value = .string text

/-- For these values alone JSON text and plain text are two texts. -/
theorem compact_ne_plainText_iff {value : Json} :
    value.compact ≠ value.plainText ↔ value.IsTextual := by
  cases value with
  | null => exact iff_of_true (by decide) (.inl rfl)
  | string text => exact iff_of_true (quoted_ne_self text) (.inr ⟨text, rfl⟩)
  | bool | number | array | object => simp [IsTextual, plainText]

/-- The JSON text of a value, or its plain text. -/
def written (value : Json) (asJson : Prop) [Decidable asJson] : String :=
  if asJson then value.compact else value.plainText

theorem written_eq_iff {value : Json} {first second : Prop} [Decidable first]
    [Decidable second] :
    value.written first = value.written second ↔ ¬ value.IsTextual ∨ (first ↔ second) := by
  rw [← compact_ne_plainText_iff, not_not, written, written]
  by_cases one : first <;> by_cases other : second <;> simp [one, other, eq_comm]

end Json

/-! ## Media types -/

/-- A media type: its kind up to the first semicolon, and its parameters from there on. -/
structure MediaType where
  kind : String
  parameters : String
  unmarked : ';' ∉ kind.toList
  opened : parameters = "" ∨ parameters.toList.head? = some ';'

namespace MediaType

def text (mediaType : MediaType) : String := mediaType.kind ++ mediaType.parameters

/-- Every text is that of a media type. -/
theorem exists_text_eq (text : String) : ∃ mediaType : MediaType, mediaType.text = text := by
  refine ⟨⟨String.ofList (text.toList.takeWhile (· != ';')),
    String.ofList (text.toList.dropWhile (· != ';')), ?unmarked, ?opened⟩, ?whole⟩
  case unmarked =>
    rw [String.toList_ofList]
    intro isMark
    exact absurd (List.mem_takeWhile_imp isMark) (by decide)
  case opened =>
    have stops := List.head?_dropWhile_not (· != ';') text.toList
    rw [String.toList_ofList]
    cases rest : text.toList.dropWhile (· != ';') with
    | nil => exact .inl rfl
    | cons mark behind =>
        rw [rest] at stops
        exact .inr (congrArg some (by simpa using stops))
  case whole =>
    rw [MediaType.text, ← String.ofList_append, List.takeWhile_append_dropWhile,
      String.ofList_toList]

/-- The kind in small letters, without the blanks around it. -/
def essence (mediaType : MediaType) : String := trimmed (lower mediaType.kind)

/-- A type whose values are JSON texts. -/
def IsJson (mediaType : MediaType) : Prop :=
  mediaType.essence = "application/json" ∨ "+json".toList <:+ mediaType.essence.toList

instance (mediaType : MediaType) : Decidable mediaType.IsJson :=
  inferInstanceAs (Decidable (_ ∨ _))

/-- What stands last in the text: the parameters, if there are any. -/
def last (mediaType : MediaType) : String :=
  if mediaType.parameters = "" then mediaType.kind else mediaType.parameters

/-- A text that starts with the JSON type in any letter case. -/
def StartsAsJson (text : String) : Prop := "application/json".toList <+: (lower text).toList

instance (text : String) : Decidable (StartsAsJson text) :=
  inferInstanceAs (Decidable (_ <+: _))

/-- A text that ends with the suffix of JSON types in any letter case. -/
def EndsAsJson (text : String) : Prop := "+json".toList <:+ (lower text).toList

instance (text : String) : Decidable (EndsAsJson text) :=
  inferInstanceAs (Decidable (_ <:+ _))

theorem isJson_eq_true_iff {text : String} {value : Json} :
    RequestBody.isJson ⟨some text, value⟩ = true ↔ StartsAsJson text ∨ EndsAsJson text := by
  rw [RequestBody.isJson, Bool.or_eq_true, after?_isSome_iff, after?_reverse_isSome_iff]
  rfl

/-- Parameters go on after the mark they are opened by. -/
theorem exists_parameters_eq {mediaType : MediaType} (given : mediaType.parameters ≠ "") :
    ∃ rest, (lower mediaType.parameters).toList = ';' :: rest := by
  obtain ⟨rest, chars⟩ := List.head?_eq_some_iff.1 (mediaType.opened.resolve_left given)
  exact ⟨rest.map asciiLower, by rw [lower, String.toList_ofList, chars]; rfl⟩

theorem lower_text (mediaType : MediaType) :
    (lower mediaType.text).toList =
      (lower mediaType.kind).toList ++ (lower mediaType.parameters).toList := by
  simp only [text, lower, String.toList_ofList, String.toList_append, List.map_append]

/-- The start is that of the kind. -/
theorem startsAsJson_text_iff {mediaType : MediaType} :
    StartsAsJson mediaType.text ↔ StartsAsJson mediaType.kind := by
  by_cases missing : mediaType.parameters = ""
  case pos => rw [text, missing, String.append_empty]
  case neg =>
    obtain ⟨rest, written⟩ := exists_parameters_eq missing
    rw [StartsAsJson, lower_text, written]
    exact prefix_append_cons_iff (by decide) _ rest

/-- The end is that of the parameters. -/
theorem endsAsJson_text_iff {mediaType : MediaType} :
    EndsAsJson mediaType.text ↔ EndsAsJson mediaType.last := by
  rw [last]
  split
  case isTrue missing => rw [text, missing, String.append_empty]
  case isFalse given =>
    obtain ⟨rest, written⟩ := exists_parameters_eq given
    rw [EndsAsJson, EndsAsJson, lower_text, written]
    exact suffix_append_cons_iff (by decide) _ rest

end MediaType

/-! ## The body -/

namespace PreparedRequest

open MediaType

/-- The body that is sent of a value, if the template has it for its body. -/
def sentBody (template : RequestTemplate) (mediaType : Option String) (value : Json) :
    Except PrepareError (Option String) :=
  (prepare { template with body := some ⟨mediaType, value⟩ }).map PreparedRequest.body

/-- Whether a template can be prepared does not depend on its body. -/
theorem sentBody_eq {template : RequestTemplate} (prepared : (prepare template).isOk)
    (mediaType : Option String) (value : Json) :
    sentBody template mediaType value =
      .ok (some (value.written (RequestBody.isJson ⟨mediaType, value⟩ = true))) := by
  obtain ⟨request, made⟩ := exists_prepared prepared
  obtain ⟨url, parsed, -⟩ := prepare_eq_ok_iff.1 made
  have withBody : prepare { template with body := some ⟨mediaType, value⟩ } =
      .ok (ofUrl { template with body := some ⟨mediaType, value⟩ } url) :=
    prepare_eq_ok_iff.2 ⟨url, parsed, rfl⟩
  rw [sentBody, withBody, Except.map, (ofUrl_typed _ url).2.1]
  rfl

theorem sentBody_eq_ok_iff {template : RequestTemplate} (prepared : (prepare template).isOk)
    {mediaType : Option String} {value : Json} {asJson : Prop} [Decidable asJson] :
    sentBody template mediaType value = .ok (some (value.written asJson)) ↔
      ¬ value.IsTextual ∨ (RequestBody.isJson ⟨mediaType, value⟩ = true ↔ asJson) := by
  rw [sentBody_eq prepared, Except.ok.injEq, Option.some.injEq, Json.written_eq_iff]

/-- A body without a media type is JSON text, and every text is a media type. Its parameters
leave the body as it is without them exactly if the value is neither a string nor null, or there
are none, or the kind starts with `application/json`, or kind and parameters both or neither end
with `+json`. The body is JSON text for a JSON type and plain text for another one exactly if the
value is neither a string nor null, or the kind starts with `application/json` and is a JSON
type, or it does not and the media type ends with `+json` just if it is a JSON type. -/
theorem body_follows_media_type_iff {template : RequestTemplate}
    (prepared : (prepare template).isOk) (value : Json) :
    sentBody template none value = .ok (some value.compact) ∧
      (∀ text, ∃ mediaType : MediaType, mediaType.text = text) ∧
      ∀ mediaType : MediaType,
        (sentBody template (some mediaType.text) value =
            sentBody template (some mediaType.kind) value ↔
          ¬ value.IsTextual ∨ mediaType.parameters = "" ∨ StartsAsJson mediaType.kind ∨
            (EndsAsJson mediaType.kind ↔ EndsAsJson mediaType.parameters)) ∧
        (sentBody template (some mediaType.text) value =
            .ok (some (if mediaType.IsJson then value.compact else value.plainText)) ↔
          ¬ value.IsTextual ∨
            if StartsAsJson mediaType.kind then mediaType.IsJson
            else (EndsAsJson mediaType.last ↔ mediaType.IsJson)) := by
  refine ⟨sentBody_eq prepared none value, exists_text_eq,
    fun mediaType => ⟨?parameters, ?essence⟩⟩
  case parameters =>
    rw [sentBody_eq prepared (some mediaType.kind), sentBody_eq_ok_iff prepared,
      isJson_eq_true_iff, isJson_eq_true_iff, startsAsJson_text_iff, endsAsJson_text_iff, last]
    split
    case isTrue missing => simp [missing]
    case isFalse given =>
      -- A kind that starts as JSON decides alone; else the last part does, with its own end.
      by_cases starts : StartsAsJson mediaType.kind
      · simp [starts]
      · simp only [starts, given, false_or]
        rw [@Iff.comm (EndsAsJson mediaType.kind)]
  case essence =>
    rw [← Json.written, sentBody_eq_ok_iff prepared, isJson_eq_true_iff, startsAsJson_text_iff,
      endsAsJson_text_iff]
    split
    case isTrue starts => simp only [starts, true_or, true_iff]
    case isFalse other => simp only [other, false_or]

/-- A template with nothing but a URL. -/
def plainPost : RequestTemplate := ⟨"post", "http://[::1]/", ⟨∅, ∅, ∅, ∅⟩, none⟩

def jsonWithCharset : MediaType :=
  ⟨"Application/JSON", "; charset=utf-8", by decide, by decide⟩

/-- A string goes out as JSON text, with the parameter and without it. -/
theorem jsonWithCharset_body :
    (prepare plainPost).isOk = true ∧
      sentBody plainPost (some jsonWithCharset.text) (.string "x") =
        sentBody plainPost (some jsonWithCharset.kind) (.string "x") ∧
      sentBody plainPost (some jsonWithCharset.text) (.string "x") = .ok (some "\"x\"") := by
  have prepared : (prepare plainPost).isOk = true := by decide +kernel
  obtain ⟨-, -, follows⟩ := body_follows_media_type_iff prepared (.string "x")
  obtain ⟨kept, asJson⟩ := follows jsonWithCharset
  exact ⟨prepared, kept.2 (.inr (.inr (.inl (by decide)))), asJson.2 (.inr (by decide))⟩

def apiWithCharset : MediaType :=
  ⟨"application/vnd.api+json", "; charset=utf-8", by decide, by decide⟩

/-- Behind the suffix of a JSON type a parameter makes the same string plain text. -/
theorem apiWithCharset_body :
    apiWithCharset.IsJson ∧
      sentBody plainPost (some apiWithCharset.kind) (.string "x") = .ok (some "\"x\"") ∧
      sentBody plainPost (some apiWithCharset.text) (.string "x") = .ok (some "x") := by
  decide +kernel

end PreparedRequest

end RequestFlow
