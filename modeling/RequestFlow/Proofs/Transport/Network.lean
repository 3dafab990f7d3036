import RequestFlow.Proofs.Dict
import RequestFlow.Transport.Network

/-!
Contract: what a reply from the network has of the answer that came in.

Owns: a header as the joined values of the fields with its name, and when a request has a
response at all.
-/

namespace RequestFlow.Network

/-! ## Headers -/

/-- The values of the fields with a name, in order. -/
def valuesOf (fields : List (String × Option String)) (name : String) : List String :=
  (fields.filter fun field => field.1 = name).filterMap Prod.snd

/-- The header that the values of one name make. -/
def joined? : List String → Option String
  | [] => none
  | first :: rest => some (String.intercalate ", " (first :: rest))

theorem joined?_toList (value : Option String) : joined? value.toList = value := by
  cases value with
  | none => rfl
  | some value => exact congrArg some String.intercalate_singleton

/-- Two values that are joined already count as two. -/
theorem joined?_cons_cons (first second : String) (rest : List String) :
    joined? ((first ++ ", " ++ second) :: rest) = joined? (first :: second :: rest) := by
  cases rest <;> simp [joined?, String.intercalate_cons_cons, String.append_assoc]

/-- The fields join behind what is there of their name. -/
theorem get?_foldl_addField (headers : Headers) (fields : List (String × Option String))
    (name : String) :
    (fields.foldl addField headers).get? name =
      joined? ((headers.get? name).toList ++ valuesOf fields name) := by
  induction fields generalizing headers with
  | nil =>
      rw [List.foldl_nil, valuesOf, List.filter_nil, List.filterMap_nil, List.append_nil,
        joined?_toList]
  | cons field rest inductionHypothesis =>
      obtain ⟨own, value⟩ := field
      rw [List.foldl_cons, inductionHypothesis]
      cases value with
      | none =>
          have others : valuesOf ((own, none) :: rest) name = valuesOf rest name := by
            by_cases same : own = name <;> simp [valuesOf, same]
          rw [others, addField]
      | some value =>
          by_cases same : own = name
          · subst same
            have first : valuesOf ((own, some value) :: rest) own =
                value :: valuesOf rest own := by
              simp [valuesOf]
            rw [first]
            cases held : headers.get? own with
            | none => simp [addField, held, Dict.get?_insert]
            | some earlier =>
                simp only [addField, held, Dict.get?_insert, if_true, Option.toList_some,
                  List.singleton_append]
                exact joined?_cons_cons earlier value _
          · have others : valuesOf ((own, some value) :: rest) name = valuesOf rest name := by
              simp [valuesOf, same]
            have apart : (addField headers (own, some value)).get? name = headers.get? name := by
              unfold addField
              cases headers.get? own <;> simp [Dict.get?_insert, Ne.symm same]
            rw [others, apart]

/-- A header has the values of all fields with its name, in the order in which they came in. -/
theorem get?_headersOf (fields : List (String × Option String)) (name : String) :
    (headersOf fields).get? name = joined? (valuesOf fields name) := by
  rw [headersOf, get?_foldl_addField, Dict.get?_empty]
  rfl

example : (headersOf [("set-cookie", some "a=1; Path=/"), ("etag", none),
    ("set-cookie", some "b=2")]).get? "set-cookie" = some "a=1; Path=/, b=2" := by decide

/-! ## Replies -/

/-- A request has a response exactly if its method is one, the client has an answer for it, and
the body of the answer is not too long. -/
theorem transport_eq_response_iff {client : Client} {limits : Limits} {before : List HttpRequest}
    {request : HttpRequest} {response : HttpResponse} :
    client.transport limits before request = .response response ↔
      client.methodFault? request.method = none ∧
        ∃ arrival, client.exchange before limits.timeout request = .ok arrival ∧
          arrival.body.length ≤ limits.maxBytes ∧
          response = ⟨arrival.status, headersOf arrival.fields,
            String.ofList (Text.ofBytes arrival.body)⟩ := by
  unfold Client.transport
  cases client.methodFault? request.method with
  | some reason => simp
  | none =>
      cases client.exchange before limits.timeout request with
      | error fault => simp
      | ok arrival =>
          by_cases long : limits.maxBytes < arrival.body.length
          · have unfit : ¬ arrival.body.length ≤ limits.maxBytes := Nat.not_le_of_gt long
            simp [Arrival.reply, long, unfit]
          · have fits : arrival.body.length ≤ limits.maxBytes := Nat.le_of_not_lt long
            simp only [Arrival.reply, if_neg long, Reply.response.injEq, Except.ok.injEq,
              exists_eq_left', fits, true_and]
            exact eq_comm

end RequestFlow.Network
