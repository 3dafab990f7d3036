import RequestFlow.Proofs.Request.Headers

/-!
Contract: the cookies of a request, read back by their names.

Owns: the cookies that parameters and credentials place on a request, in order; and the
comparison of what is placed with what a rule reads from the cookie header.

Cookies are written with a semicolon between them, and the reader, which also serves the joined
headers of responses, takes commas for separators as well. So a value is read up to its first
comma, and what follows it may be taken for a cookie of its own.
-/

namespace RequestFlow

open Text

/-- The cookie that a credential places: a key that belongs there. -/
def AcquiredCredential.cookie? (acquired : AcquiredCredential) : Option (String × String) :=
  if acquired.credential.kind = .apiKey ∧ acquired.credential.place = some .cookie then
    acquired.credential.name.map fun name => (name, acquired.value)
  else none

theorem addition?_of_cookie? {acquired : AcquiredCredential} {name value : String}
    (isCookie : acquired.cookie? = some (name, value)) :
    acquired.addition? = some (.cookie name value) := by
  unfold AcquiredCredential.cookie? at isCookie
  split at isCookie
  case isTrue places =>
    obtain ⟨isKey, place⟩ := places
    obtain ⟨given, named, same⟩ := Option.map_eq_some_iff.1 isCookie
    cases same
    rw [AcquiredCredential.addition?, isKey, named, place]
    rfl
  case isFalse => cases isCookie

namespace PreparedRequest

/-- The cookies that a template and credentials place on a request, in order. -/
def placedCookies (template : RequestTemplate) (credentials : List AcquiredCredential) :
    List (String × String) :=
  (template.parameters.cookie.entries.map fun (name, value) => (name, value.plainText)) ++
    credentials.filterMap AcquiredCredential.cookie?

/-- What the text of a cookie comes to in a header. -/
def writtenPairs (cookie : String × String) : List (List Char × List Char) :=
  Cookie.pairs (cookie.1 ++ "=" ++ cookie.2).toList

def appendCookies (request : PreparedRequest) (placed : List (String × String)) :
    PreparedRequest :=
  placed.foldl (fun request cookie => request.appendCookie cookie.1 cookie.2) request

/-! ## Cookies of a prepared request -/

section Cookies

variable {request : PreparedRequest}

/-- Cookies that are appended stand behind those that are there. -/
theorem cookies_appendCookies (differ : request.headers.NamesDiffer)
    (placed : List (String × String)) :
    (request.appendCookies placed).headers.NamesDiffer ∧
      (request.appendCookies placed).cookies = request.cookies ++ placed.flatMap writtenPairs := by
  unfold appendCookies
  induction placed generalizing request with
  | nil => exact ⟨differ, (List.append_nil _).symm⟩
  | cons cookie rest inductionHypothesis =>
      obtain ⟨names, added⟩ :=
        inductionHypothesis (namesDiffer_appendCookie differ cookie.1 cookie.2)
      refine ⟨names, ?_⟩
      rw [List.foldl_cons, added, cookies_appendCookie differ, List.append_assoc,
        List.flatMap_cons]
      rfl

theorem cookies_setHeader (differ : request.headers.NamesDiffer) {name : String}
    (notCookie : sameIgnoringCase name cookieHeader = false) (value : String) :
    (request.setHeader name value).cookies = request.cookies := by
  have differs : sameIgnoringCase cookieHeader name = false := by
    rw [Bool.eq_false_iff]
    intro same
    rw [sameIgnoringCase_symm same] at notCookie
    cases notCookie
  rw [cookies, cookies, setHeader, differ.value?_set_of_differs differs]

theorem cookies_addHeaders (differ : request.headers.NamesDiffer) {parameters : Dict Json}
    (notCookie : ∀ name ∈ parameters.keys, sameIgnoringCase name cookieHeader = false) :
    (addHeaders parameters request).cookies = request.cookies := by
  unfold addHeaders
  unfold Dict.keys at notCookie
  generalize parameters.entries = entries at notCookie ⊢
  induction entries generalizing request with
  | nil => rfl
  | cons entry rest inductionHypothesis =>
      rw [List.map_cons, List.forall_mem_cons] at notCookie
      rw [List.foldl_cons, inductionHypothesis (differ.set _ _) notCookie.2,
        cookies_setHeader differ notCookie.1]

theorem cookies_addBody (differ : request.headers.NamesDiffer) (body : Option RequestBody) :
    (addBody body request).cookies = request.cookies := by
  cases body with
  | none => rfl
  | some body =>
      unfold addBody
      dsimp only
      split
      · rfl
      · exact cookies_setHeader differ (by decide) _

/-- A request that is prepared without a cookie header of its own has the cookies of its
parameters. -/
theorem cookies_ofUrl {template : RequestTemplate} (url : WebUrl)
    (notCookie : ∀ name ∈ template.parameters.header.keys,
      sameIgnoringCase name cookieHeader = false) :
    (ofUrl template url).cookies = (placedCookies template []).flatMap writtenPairs := by
  let headed := addHeaders template.parameters.header (bare template url)
  have noHeaders := namesDiffer_bare template url
  have withHeaders : (bare template url).GrownFrom headed :=
    (GrownFrom.refl noHeaders).addHeaders template.parameters.header
  have written : addCookies template.parameters.cookie headed =
      headed.appendCookies (placedCookies template []) := by
    rw [placedCookies, List.filterMap_nil, List.append_nil, appendCookies, List.foldl_map]
    rfl
  obtain ⟨names, added⟩ := cookies_appendCookies withHeaders.names (placedCookies template [])
  rw [ofUrl_eq, written, cookies_addBody names, added, cookies_addHeaders noHeaders notCookie]
  rfl

/-- Keys that belong into cookies can be placed, and are. -/
theorem foldlM_applyCredential_of_cookies {credentials : List AcquiredCredential}
    (areCookies : ∀ acquired ∈ credentials, acquired.cookie?.isSome) :
    credentials.foldlM applyCredential request =
      .ok (request.appendCookies (credentials.filterMap AcquiredCredential.cookie?)) := by
  induction credentials generalizing request with
  | nil => rfl
  | cons acquired rest inductionHypothesis =>
      obtain ⟨isCookie, others⟩ := List.forall_mem_cons.1 areCookies
      obtain ⟨⟨name, value⟩, placed⟩ := Option.isSome_iff_exists.1 isCookie
      rw [List.foldlM_cons, applyCredential_eq, addition?_of_cookie? placed,
        List.filterMap_cons_some placed]
      exact inductionHypothesis others

/-- A rule for a cookie of the request takes the first one of the name. -/
theorem evaluate_ofCookie_eq_ok_iff {exchange : Exchange}
    (sent : exchange.request = request.toHttp) {name value : String} (filled : name ≠ "")
    (variableName : String) :
    (AssignmentRule.ofCookie variableName .request name).evaluate exchange =
        .ok (.string value) ↔
      Cookie.first? request.cookies name = some value := by
  have header : AssignmentRule.headerOf exchange .request "cookie" =
      request.headers.value? cookieHeader := by
    rw [AssignmentRule.headerOf, sent]
    exact request.headers.value?_congr (by decide)
  have found : (request.headers.value? cookieHeader).bind (Cookie.value? · name) =
      Cookie.first? request.cookies name := by
    rw [cookies]
    cases request.headers.value? cookieHeader <;> rfl
  rw [AssignmentRule.evaluate_ofCookie exchange .request filled, AssignmentRule.cookieHeaderOf,
    header, found]
  cases Cookie.first? request.cookies name <;> simp

end Cookies

/-! ## Cookies read back -/

section Written

variable {placed : List (String × String)} {name value : String}

/-- What a lookup finds has no comma. -/
theorem noComma_of_first? (found : Cookie.first? (placed.flatMap writtenPairs) name = some value) :
    ',' ∉ value.toList := by
  obtain ⟨pair, isPair, same⟩ := Cookie.exists_of_first? found
  obtain ⟨cookie, -, isWritten⟩ := List.mem_flatMap.1 isPair
  intro isComma
  rw [← same] at isComma
  exact absurd (Cookie.isSeparator_of_mem_pairs isWritten ',' isComma) (by decide)

/-- The cookie of a name is found, unless a value before it shows the name. -/
theorem first?_written {before after : List (String × String)}
    (split : placed = before ++ (name, value) :: after)
    (names : ∀ cookie ∈ placed, Cookie.IsName cookie.1) (distinct : (placed.map Prod.fst).Nodup)
    (unhidden : ∀ earlier ∈ before, ¬ Cookie.ShowsBehind earlier.2 name) :
    Cookie.first? (placed.flatMap writtenPairs) name = some (Cookie.readValue value) := by
  subst split
  have isName : Cookie.IsName name := names (name, value) (by simp)
  rw [List.map_append, List.map_cons] at distinct
  have absent : ∀ pair ∈ before.flatMap writtenPairs, pair.1 ≠ name.toList := by
    intro pair isPair named
    obtain ⟨cookie, member, isWritten⟩ := List.mem_flatMap.1 isPair
    rw [writtenPairs, Cookie.pairs_written (names cookie (List.mem_append_left _ member))]
      at isWritten
    rcases List.mem_cons.1 isWritten with rfl | isBehind
    · exact (List.nodup_append.1 distinct).2.2 cookie.1 (List.mem_map_of_mem member) name
        List.mem_cons_self (String.toList_inj.1 named)
    · exact unhidden cookie member (Cookie.exists_isPair_iff.2 ⟨pair, isBehind, named⟩)
  rw [List.flatMap_append, List.flatMap_cons, writtenPairs, Cookie.pairs_written isName,
    List.cons_append, Cookie.first?_append absent, String.ofList_toList]

/-- A value without semicolons and commas has no separators. -/
theorem noSeparator_of_noComma (noSemicolon : ';' ∉ value.toList) (noComma : ',' ∉ value.toList) :
    Cookie.IsPlain value := by
  intro char member
  rw [Cookie.isSeparator, Bool.or_eq_false_iff, beq_eq_false_iff_ne, beq_eq_false_iff_ne]
  exact ⟨fun same => noSemicolon (same ▸ member), fun same => noComma (same ▸ member)⟩

theorem not_showsBehind (noSeparator : Cookie.IsPlain value) :
    ¬ Cookie.ShowsBehind value name := by
  rintro ⟨piece, isPiece, -⟩
  rw [pieces_eq_singleton noSeparator] at isPiece
  cases isPiece

/-- All cookies are found as they were written just if no value has a comma. -/
theorem all_first?_written_iff (names : ∀ cookie ∈ placed, Cookie.IsName cookie.1)
    (distinct : (placed.map Prod.fst).Nodup)
    (values : ∀ cookie ∈ placed, ';' ∉ cookie.2.toList ∧ Text.trimmed cookie.2 = cookie.2) :
    (∀ cookie ∈ placed,
        Cookie.first? (placed.flatMap writtenPairs) cookie.1 = some cookie.2) ↔
      ∀ cookie ∈ placed, ',' ∉ cookie.2.toList := by
  refine ⟨fun found cookie member => noComma_of_first? (found cookie member), ?_⟩
  intro noComma cookie member
  have noSeparator : ∀ other ∈ placed, Cookie.IsPlain other.2 := fun other isPlaced =>
    noSeparator_of_noComma (values other isPlaced).1 (noComma other isPlaced)
  obtain ⟨before, after, split⟩ := List.append_of_mem member
  have unhidden : ∀ earlier ∈ before, ¬ Cookie.ShowsBehind earlier.2 cookie.1 := by
    intro earlier isEarlier
    exact not_showsBehind (noSeparator earlier (split ▸ List.mem_append_left _ isEarlier))
  rw [first?_written split names distinct unhidden,
    Cookie.readValue_eq_self (noSeparator cookie member) (values cookie member).2]

end Written

/-- Of a request without a cookie header of its own, a rule reads the placed cookie of its name
up to the first comma of the value, unless the value of a cookie before it shows the name behind
a comma; and no value with a comma is read as it was placed. So all cookies are read back as
they were placed exactly if no value has a comma. -/
theorem placed_cookies_read_back_iff {template : RequestTemplate} {request : PreparedRequest}
    {credentials : List AcquiredCredential} (prepared : prepare template = .ok request)
    (notCookie : ∀ name ∈ template.parameters.header.keys,
      sameIgnoringCase name cookieHeader = false)
    (areCookies : ∀ acquired ∈ credentials, acquired.cookie?.isSome)
    (names : ∀ cookie ∈ placedCookies template credentials, Cookie.IsName cookie.1)
    (distinct : ((placedCookies template credentials).map Prod.fst).Nodup)
    (values : ∀ cookie ∈ placedCookies template credentials,
      ';' ∉ cookie.2.toList ∧ Text.trimmed cookie.2 = cookie.2) :
    ∃ placed, credentials.foldlM applyCredential request = .ok placed ∧
      ∀ exchange : Exchange, exchange.request = placed.toHttp → ∀ variableName,
        (∀ before name value after,
          placedCookies template credentials = before ++ (name, value) :: after →
          (∀ earlier ∈ before, ¬ Cookie.ShowsBehind earlier.2 name) →
            (AssignmentRule.ofCookie variableName .request name).evaluate exchange =
              .ok (.string (Cookie.readValue value))) ∧
        (∀ cookie ∈ placedCookies template credentials,
          (AssignmentRule.ofCookie variableName .request cookie.1).evaluate exchange =
            .ok (.string cookie.2) → ',' ∉ cookie.2.toList) ∧
        ((∀ cookie ∈ placedCookies template credentials,
            (AssignmentRule.ofCookie variableName .request cookie.1).evaluate exchange =
              .ok (.string cookie.2)) ↔
          ∀ cookie ∈ placedCookies template credentials, ',' ∉ cookie.2.toList) := by
  obtain ⟨url, -, rfl⟩ := prepare_eq_ok_iff.1 prepared
  refine ⟨_, foldlM_applyCredential_of_cookies areCookies, ?_⟩
  intro exchange sent variableName
  have written : ((ofUrl template url).appendCookies
      (credentials.filterMap AcquiredCredential.cookie?)).cookies =
        (placedCookies template credentials).flatMap writtenPairs := by
    obtain ⟨-, added⟩ := cookies_appendCookies (ofUrl_typed template url).2.2.1
      (credentials.filterMap AcquiredCredential.cookie?)
    rw [added, cookies_ofUrl url notCookie, ← List.flatMap_append, placedCookies,
      List.filterMap_nil, List.append_nil, placedCookies]
  have readsCookie : ∀ cookie ∈ placedCookies template credentials, ∀ value,
      (AssignmentRule.ofCookie variableName .request cookie.1).evaluate exchange =
          .ok (.string value) ↔
        Cookie.first? ((placedCookies template credentials).flatMap writtenPairs) cookie.1 =
          some value := by
    intro cookie member value
    rw [evaluate_ofCookie_eq_ok_iff sent (names cookie member).filled, written]
  refine ⟨?_, ?_, ?_⟩
  · intro before name value after split unhidden
    rw [readsCookie (name, value) (by rw [split]; simp)]
    exact first?_written split names distinct unhidden
  · intro cookie member readBack
    exact noComma_of_first? ((readsCookie cookie member cookie.2).1 readBack)
  · rw [← all_first?_written_iff names distinct values]
    exact forall₂_congr fun cookie member => readsCookie cookie member cookie.2

/-- A request with a cookie whose value looks like a pair. -/
def signedRequest : RequestTemplate :=
  ⟨"get", "http://[::1]/", ⟨∅, ∅, ∅, Dict.ofList [("sid", .string "a=b")]⟩, none⟩

def cookieKey : AcquiredCredential :=
  ⟨"key", ⟨.apiKey, some .cookie, some "token", "main", ∅⟩, "c2VjcmV0=="⟩

/-- The cookie of the request and that of its credential are read back. -/
theorem signedRequest_cookies_read_back :
    ∃ request placed, prepare signedRequest = .ok request ∧
      [cookieKey].foldlM applyCredential request = .ok placed ∧
      ∀ cookie ∈ [("sid", "a=b"), ("token", "c2VjcmV0==")],
        (AssignmentRule.ofCookie "look" .request cookie.1).evaluate
          ⟨signedRequest, placed.toHttp, .ofStatus 200⟩ = .ok (.string cookie.2) := by
  obtain ⟨request, prepared⟩ := exists_prepared
    (show (prepare signedRequest).isOk = true by decide +kernel)
  have cookies : placedCookies signedRequest [cookieKey] =
      [("sid", "a=b"), ("token", "c2VjcmV0==")] := by decide
  have names : ∀ cookie ∈ [("sid", "a=b"), ("token", "c2VjcmV0==")], Cookie.IsName cookie.1 := by
    rw [List.forall_mem_cons, List.forall_mem_singleton]
    exact ⟨by decide, by decide⟩
  obtain ⟨placed, applied, reads⟩ := placed_cookies_read_back_iff prepared (by decide)
    (show ∀ acquired ∈ [cookieKey], acquired.cookie?.isSome by decide) (by rwa [cookies])
    (by decide) (by decide)
  refine ⟨request, placed, prepared, applied, ?_⟩
  have all := (reads ⟨signedRequest, placed.toHttp, .ofStatus 200⟩ rfl "look").2.2.2
  rw [cookies] at all
  exact all (by decide)

/-- A request with a list for a cookie. -/
def taggedRequest : RequestTemplate :=
  ⟨"get", "http://[::1]/",
    ⟨∅, ∅, ∅, Dict.ofList [("tags", .array [.string "a", .string "b"])]⟩, none⟩

/-- The text of the list is placed, and what is read back ends at its comma. -/
theorem taggedRequest_read_to_comma :
    placedCookies taggedRequest [] = [("tags", "[\"a\",\"b\"]")] ∧ Cookie.IsName "tags" ∧
      ∃ request, prepare taggedRequest = .ok request ∧
        (AssignmentRule.ofCookie "look" .request "tags").evaluate
          ⟨taggedRequest, request.toHttp, .ofStatus 200⟩ = .ok (.string "[\"a\"") := by
  refine ⟨by decide +kernel, by decide, ?_⟩
  obtain ⟨request, prepared⟩ := exists_prepared
    (show (prepare taggedRequest).isOk = true by decide +kernel)
  refine ⟨request, prepared, ?_⟩
  have read : (prepare taggedRequest).toOption.map (fun request =>
      (AssignmentRule.ofCookie "look" .request "tags").evaluate
        ⟨taggedRequest, request.toHttp, .ofStatus 200⟩) = some (.ok (.string "[\"a\"")) := by
    decide +kernel
  rw [prepared] at read
  exact Option.some.inj read

end PreparedRequest

end RequestFlow
