import RequestFlow.Proofs.Assignment.Cookie
import RequestFlow.Proofs.Request.Placement
import RequestFlow.Proofs.Request.Preparation

/-!
Contract: prepared requests stay well-formed, whatever is placed on them.

Owns: what a well-formed request for a template is; that a preparation makes one and that every
addition keeps it; and what a header that is set and a cookie that is added leave of the others.

Every change looks for the other spellings of a name before it writes one. This is why no
header is there twice, and why the content type that comes with a body cannot be lost: it can
only be replaced by another one.
-/

namespace RequestFlow

open Text

namespace PreparedRequest

variable {request : PreparedRequest}

/-- The text of a cookie header with one more cookie. -/
def joinedCookies (earlier : Option String) (cookie : String) : String :=
  match earlier with
  | some cookies => cookies ++ "; " ++ cookie
  | none => cookie

/-- A cookie goes to the header that a lookup finds, or to a new one. -/
theorem headers_appendCookie (differ : request.headers.NamesDiffer) (name value : String) :
    ∃ key, sameIgnoringCase key cookieHeader = true ∧
      (∀ other ∈ request.headers.keys, sameIgnoringCase other cookieHeader = true →
        other = key) ∧
      (request.appendCookie name value).headers =
        request.headers.insert key
          (joinedCookies (request.headers.value? cookieHeader) (name ++ "=" ++ value)) := by
  rw [appendCookie, Headers.value?]
  cases found : request.headers.entries.find? fun header =>
      sameIgnoringCase header.1 cookieHeader with
  | none =>
      refine ⟨cookieHeader, sameIgnoringCase_refl _, ?_, rfl⟩
      intro other isKey same
      obtain ⟨entry, member, rfl⟩ := List.mem_map.1 isKey
      exact absurd same (List.find?_eq_none.1 found entry member)
  | some entry =>
      obtain ⟨key, cookies⟩ := entry
      have same := List.find?_some found
      have isKey : key ∈ request.headers.keys :=
        List.mem_map_of_mem (List.mem_of_find?_eq_some found)
      refine ⟨key, same, ?_, rfl⟩
      intro other isOther alsoSame
      exact differ other isOther key isKey
        (sameIgnoringCase_trans alsoSame (sameIgnoringCase_symm same))

theorem namesDiffer_appendCookie (differ : request.headers.NamesDiffer) (name value : String) :
    (request.appendCookie name value).headers.NamesDiffer := by
  obtain ⟨key, isCookie, only, written⟩ := headers_appendCookie differ name value
  have isKey : ∀ other ∈ request.headers.keys, sameIgnoringCase other key = true →
      other = key := fun other member same =>
    only other member (sameIgnoringCase_trans same isCookie)
  rw [written]
  intro first isFirst second isSecond same
  rw [Dict.mem_keys_insert] at isFirst isSecond
  rcases isFirst with rfl | isFirst
  · rcases isSecond with rfl | isSecond
    · rfl
    · exact (isKey second isSecond (sameIgnoringCase_symm same)).symm
  · rcases isSecond with rfl | isSecond
    · exact isKey first isFirst same
    · exact differ first isFirst second isSecond same

/-- A header of another name is not changed by a cookie. -/
theorem get?_appendCookie (differ : request.headers.NamesDiffer) (name value : String)
    {other : String} (notCookie : sameIgnoringCase other cookieHeader = false) :
    (request.appendCookie name value).headers.get? other = request.headers.get? other := by
  obtain ⟨key, isCookie, -, written⟩ := headers_appendCookie differ name value
  have different : other ≠ key := by
    rintro rfl
    rw [isCookie] at notCookie
    cases notCookie
  rw [written, Dict.get?_insert, if_neg different]

/-- The cookie header is the one of before with the cookie behind it. -/
theorem value?_appendCookie (differ : request.headers.NamesDiffer) (name value : String) :
    (request.appendCookie name value).headers.value? cookieHeader =
      some (joinedCookies (request.headers.value? cookieHeader) (name ++ "=" ++ value)) := by
  obtain ⟨key, isCookie, -, written⟩ := headers_appendCookie differ name value
  apply (namesDiffer_appendCookie differ name value).value?_eq_some isCookie
  rw [written, Dict.get?_insert, if_pos rfl]

/-- A cookie takes no name away. -/
theorem isSome_value?_appendCookie (differ : request.headers.NamesDiffer) {wanted : String}
    (held : (request.headers.value? wanted).isSome) (name value : String) :
    ((request.appendCookie name value).headers.value? wanted).isSome := by
  obtain ⟨key, -, -, written⟩ := headers_appendCookie differ name value
  rw [Headers.isSome_value?_iff] at held ⊢
  obtain ⟨other, isKey, same⟩ := held
  rw [written]
  exact ⟨other, Dict.mem_keys_insert.2 (.inr isKey), same⟩

/-- The cookies that a request sends. -/
def cookies (request : PreparedRequest) : List (List Char × List Char) :=
  match request.headers.value? cookieHeader with
  | some text => Cookie.pairs text.toList
  | none => []

/-- The cookies of before are sent, and the new one behind them. -/
theorem cookies_appendCookie (differ : request.headers.NamesDiffer) (name value : String) :
    (request.appendCookie name value).cookies =
      request.cookies ++ Cookie.pairs (name ++ "=" ++ value).toList := by
  rw [cookies, value?_appendCookie differ, cookies]
  cases request.headers.value? cookieHeader with
  | none => rfl
  | some earlier =>
      have joined : (joinedCookies (some earlier) (name ++ "=" ++ value)).toList =
          earlier.toList ++ ';' :: ' ' :: (name ++ "=" ++ value).toList := by
        simp [joinedCookies]
      rw [← @Cookie.pairs_joined ';' rfl, ← joined]

/-! ## Additions -/

/-- A request that came from another one by additions: only the URL and the headers are other
ones, no header is there twice, and no name was taken away. -/
structure GrownFrom (start request : PreparedRequest) : Prop where
  method : request.method = start.method
  body : request.body = start.body
  names : request.headers.NamesDiffer
  held : ∀ wanted, (start.headers.value? wanted).isSome →
    (request.headers.value? wanted).isSome

theorem GrownFrom.refl (differ : request.headers.NamesDiffer) : request.GrownFrom request :=
  ⟨rfl, rfl, differ, fun _ found => found⟩

theorem method_appendCookie (request : PreparedRequest) (name value : String) :
    (request.appendCookie name value).method = request.method := by
  unfold appendCookie
  split <;> rfl

theorem body_appendCookie (request : PreparedRequest) (name value : String) :
    (request.appendCookie name value).body = request.body := by
  unfold appendCookie
  split <;> rfl

/-- Every addition is such a step. -/
theorem GrownFrom.add {start : PreparedRequest} (grown : start.GrownFrom request)
    (addition : Addition) : start.GrownFrom (request.add addition) := by
  obtain ⟨method, body, names, held⟩ := grown
  cases addition with
  | header name value =>
      exact ⟨method, body, names.set name value, fun wanted found =>
        Headers.isSome_value?_set (held wanted found) name value⟩
  | query name value => exact ⟨method, body, names, held⟩
  | cookie name value =>
      refine ⟨?_, ?_, namesDiffer_appendCookie names name value, fun wanted found =>
        isSome_value?_appendCookie names (held wanted found) name value⟩
      · rw [PreparedRequest.add, method_appendCookie, method]
      · rw [PreparedRequest.add, body_appendCookie, body]

theorem GrownFrom.addHeaders {start : PreparedRequest} (grown : start.GrownFrom request)
    (parameters : Dict Json) : start.GrownFrom (addHeaders parameters request) := by
  unfold PreparedRequest.addHeaders
  induction parameters.entries generalizing request with
  | nil => exact grown
  | cons entry rest inductionHypothesis =>
      exact inductionHypothesis (grown.add (.header entry.1 entry.2.plainText))

theorem GrownFrom.addCookies {start : PreparedRequest} (grown : start.GrownFrom request)
    (parameters : Dict Json) : start.GrownFrom (addCookies parameters request) := by
  unfold PreparedRequest.addCookies
  induction parameters.entries generalizing request with
  | nil => exact grown
  | cons entry rest inductionHypothesis =>
      exact inductionHypothesis (grown.add (.cookie entry.1 entry.2.plainText))

theorem GrownFrom.placeAll {start : PreparedRequest} (grown : start.GrownFrom request)
    (placements : List Placement) : start.GrownFrom (request.placeAll placements) :=
  placeAll_keeps (fun _ addition kept => kept.add addition) grown placements

/-! ## Well-formed requests -/

/-- A request as it may be sent for a template. -/
structure WellFormed (template : RequestTemplate) (request : PreparedRequest) : Prop where
  /-- No header is there twice, in whatever letter case. -/
  names : (request.headers.keys.map lower).Nodup
  /-- The request goes to a web URL. -/
  scheme : (∃ rest, request.toHttp.url = "http://" ++ rest) ∨
    ∃ rest, request.toHttp.url = "https://" ++ rest
  /-- The method is in capitals. -/
  method : ∀ char ∈ request.toHttp.method.toList, ¬ ('a' ≤ char ∧ char ≤ 'z')
  /-- There is a body exactly if the template has one. -/
  body : request.toHttp.body = template.body.map bodyText
  /-- A body comes with a content type. -/
  typed : template.body.isSome →
    ∀ name, sameIgnoringCase name contentTypeHeader = true → (request.toHttp.header? name).isSome

theorem addBody_typed (body : Option RequestBody) (differ : request.headers.NamesDiffer) :
    (addBody body request).method = request.method ∧
      (addBody body request).body = (body.map bodyText).or request.body ∧
      (addBody body request).headers.NamesDiffer ∧
      (body.isSome → ((addBody body request).headers.value? contentTypeHeader).isSome) := by
  cases body with
  | none => exact ⟨rfl, rfl, differ, fun impossible => nomatch impossible⟩
  | some body =>
      unfold addBody
      dsimp only
      split
      case isTrue typed => exact ⟨rfl, rfl, differ, fun _ => typed⟩
      case isFalse =>
        refine ⟨rfl, rfl, differ.set _ _, fun _ => ?_⟩
        exact Option.isSome_iff_exists.2
          ⟨_, Headers.value?_set request.headers _ (sameIgnoringCase_refl contentTypeHeader)⟩

theorem not_lower_asciiUpper (char : Char) :
    ¬ ('a' ≤ asciiUpper char ∧ asciiUpper char ≤ 'z') := by
  have capitals : ∀ code < 123, 97 ≤ code → ¬ 'a' ≤ Char.ofNat (code - 32) := by decide
  unfold asciiUpper
  split
  case isTrue isLower =>
    exact fun both => capitals char.toNat (Nat.lt_succ_of_le isLower.2) isLower.1 both.1
  case isFalse notLower => exact notLower

/-- The written form of a URL starts with its scheme. -/
theorem toString_scheme (url : WebUrl) :
    (∃ rest, url.toString = "http://" ++ rest) ∨ ∃ rest, url.toString = "https://" ++ rest := by
  have begins : ∃ rest, url.toString = url.scheme.word ++ "://" ++ rest := by
    simp only [WebUrl.toString, String.append_assoc]
    exact ⟨_, rfl⟩
  obtain ⟨rest, written⟩ := begins
  rw [written]
  cases url.scheme with
  | http => exact .inl ⟨rest, rfl⟩
  | https => exact .inr ⟨rest, rfl⟩

/-- The request that a preparation starts with: it has no headers. -/
def bare (template : RequestTemplate) (url : WebUrl) : PreparedRequest :=
  ⟨upper template.method, addQuery template.parameters.query url, ∅, none⟩

theorem ofUrl_eq (template : RequestTemplate) (url : WebUrl) :
    ofUrl template url =
      addBody template.body
        (addCookies template.parameters.cookie
          (addHeaders template.parameters.header (bare template url))) :=
  rfl

theorem namesDiffer_bare (template : RequestTemplate) (url : WebUrl) :
    (bare template url).headers.NamesDiffer :=
  fun _ isFirst => nomatch isFirst

/-- A preparation makes a request of its method and body. -/
theorem ofUrl_typed (template : RequestTemplate) (url : WebUrl) :
    (ofUrl template url).method = upper template.method ∧
      (ofUrl template url).body = template.body.map bodyText ∧
      (ofUrl template url).headers.NamesDiffer ∧
      (template.body.isSome →
        ((ofUrl template url).headers.value? contentTypeHeader).isSome) := by
  have grown : (bare template url).GrownFrom _ :=
    ((GrownFrom.refl (namesDiffer_bare template url)).addHeaders
      template.parameters.header).addCookies template.parameters.cookie
  obtain ⟨method, body, names, typed⟩ := addBody_typed template.body grown.names
  rw [ofUrl_eq]
  refine ⟨method.trans grown.method, ?_, names, typed⟩
  rw [body, grown.body]
  exact Option.or_none

theorem wellFormed_of_grownFrom {template : RequestTemplate} {url : WebUrl}
    (grown : (ofUrl template url).GrownFrom request) : request.WellFormed template := by
  obtain ⟨method, body, -, typed⟩ := ofUrl_typed template url
  constructor
  case names => exact grown.names.nodup_lower
  case scheme => exact toString_scheme request.url
  case method =>
    intro char member
    rw [toHttp, grown.method, method, upper, String.toList_ofList, List.mem_map] at member
    obtain ⟨source, -, rfl⟩ := member
    exact not_lower_asciiUpper source
  case body => exact grown.body.trans body
  case typed =>
    intro hasBody name same
    obtain ⟨key, isKey, sameKey⟩ :=
      Headers.isSome_value?_iff.1 (grown.held contentTypeHeader (typed hasBody))
    exact Headers.isSome_value?_iff.2
      ⟨key, isKey, sameIgnoringCase_trans sameKey (sameIgnoringCase_symm same)⟩

/-- A request that is prepared is well-formed, and stays so whatever is placed on it. At any
time a header that is set is found in every spelling of its name and leaves those of other
names as they were, and a cookie is put behind those that are there and leaves all headers but
the cookie header as they were. -/
theorem placements_keep_wellFormed {template : RequestTemplate} {request : PreparedRequest}
    (prepared : prepare template = .ok request) (placements : List Placement) :
    (request.placeAll placements).WellFormed template ∧
      (∀ name value variant, sameIgnoringCase variant name = true →
        ((request.placeAll placements).setHeader name value).toHttp.header? variant =
          some value) ∧
      (∀ name value other, sameIgnoringCase other name = false →
        ((request.placeAll placements).setHeader name value).headers.get? other =
          (request.placeAll placements).headers.get? other) ∧
      (∀ name value other, sameIgnoringCase other cookieHeader = false →
        ((request.placeAll placements).appendCookie name value).headers.get? other =
          (request.placeAll placements).headers.get? other) ∧
      ∀ name value,
        ((request.placeAll placements).appendCookie name value).headers.value? cookieHeader =
            some (joinedCookies ((request.placeAll placements).headers.value? cookieHeader)
              (name ++ "=" ++ value)) ∧
          ((request.placeAll placements).appendCookie name value).cookies =
            (request.placeAll placements).cookies ++
              Cookie.pairs (name ++ "=" ++ value).toList := by
  obtain ⟨url, -, rfl⟩ := prepare_eq_ok_iff.1 prepared
  obtain ⟨-, -, names, -⟩ := ofUrl_typed template url
  have grown := (GrownFrom.refl names).placeAll placements
  refine ⟨wellFormed_of_grownFrom grown, ?found, ?others, ?besideCookies, ?cookies⟩
  case found =>
    intro name value variant same
    exact Headers.value?_set _ value same
  case others =>
    intro name value other differs
    have notName : other ≠ name := by
      rintro rfl
      rw [sameIgnoringCase_refl] at differs
      cases differs
    rw [setHeader, Headers.get?_set, if_neg notName, differs, if_neg Bool.false_ne_true]
  case besideCookies =>
    intro name value other notCookie
    exact get?_appendCookie grown.names name value notCookie
  case cookies =>
    intro name value
    exact ⟨value?_appendCookie grown.names name value,
      cookies_appendCookie grown.names name value⟩

/-- A request with a body, and a cookie beside a cookie header of its own. -/
def signedPost : RequestTemplate :=
  ⟨"post", "http://[::1]/",
    ⟨∅, ∅, Dict.ofList [("cookie", .string "a=1")], Dict.ofList [("b", .string "2")]⟩,
    some ⟨none, .null⟩⟩

/-- The cookies of the request and one that is placed on it stand in one header. -/
theorem signedPost_wellFormed :
    ∃ request, prepare signedPost = .ok request ∧
      (request.placeAll [.plain (.cookie "c" "3")]).WellFormed signedPost ∧
      ((request.placeAll [.plain (.cookie "c" "3")]).setHeader "COOKIE" "d=4").toHttp.header?
        "Cookie" = some "d=4" := by
  obtain ⟨request, prepared⟩ := exists_prepared
    (show (prepare signedPost).isOk = true by decide +kernel)
  obtain ⟨formed, found, -⟩ :=
    placements_keep_wellFormed prepared [.plain (.cookie "c" "3")]
  exact ⟨request, prepared, formed, found "COOKIE" "d=4" "Cookie" (by decide)⟩

end PreparedRequest

end RequestFlow
