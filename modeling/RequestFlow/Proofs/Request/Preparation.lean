import RequestFlow.Request.Prepared

/-!
Contract: the steps of a preparation, taken apart.

Owns: when a preparation succeeds, and with which request; and the URL of that request, which
headers, cookies and the body leave alone.
-/

namespace RequestFlow.PreparedRequest

theorem targetUrl_eq_ok_iff {template : RequestTemplate} {url : WebUrl} :
    targetUrl template = .ok url ↔
      Url.parse (Placeholder.fill template.parameters.path template.url) = .ok (.web url) := by
  rw [targetUrl]
  split
  case h_1 error failed => simp [failed]
  case h_2 scheme query parsed => simp [parsed]
  case h_3 found parsed => simp [parsed]

/-- The request that is made of a template and its URL. -/
def ofUrl (template : RequestTemplate) (url : WebUrl) : PreparedRequest :=
  addBody template.body
    (addCookies template.parameters.cookie
      (addHeaders template.parameters.header
        ⟨Text.upper template.method, addQuery template.parameters.query url, ∅, none⟩))

theorem prepare_eq_ok_iff {template : RequestTemplate} {request : PreparedRequest} :
    prepare template = .ok request ↔
      ∃ url, Url.parse (Placeholder.fill template.parameters.path template.url) =
        .ok (.web url) ∧ request = ofUrl template url := by
  simp only [← targetUrl_eq_ok_iff]
  unfold prepare
  cases targetUrl template with
  | error error =>
      constructor
      · intro made
        cases made
      · rintro ⟨_, ⟨⟩, -⟩
  | ok url =>
      constructor
      · intro made
        cases made
        exact ⟨url, rfl, rfl⟩
      · rintro ⟨_, ⟨⟩, rfl⟩
        rfl

theorem exists_prepared {template : RequestTemplate}
    (succeeds : (prepare template).isOk = true) : ∃ request, prepare template = .ok request := by
  cases made : prepare template with
  | error error =>
      rw [made] at succeeds
      cases succeeds
  | ok request => exact ⟨request, rfl⟩

/-! ## The URL -/

theorem url_appendCookie (request : PreparedRequest) (name value : String) :
    (request.appendCookie name value).url = request.url := by
  unfold appendCookie
  split <;> rfl

theorem url_addHeaders (parameters : Dict Json) (request : PreparedRequest) :
    (addHeaders parameters request).url = request.url := by
  unfold addHeaders
  induction parameters.entries generalizing request with
  | nil => rfl
  | cons entry rest inductionHypothesis => exact inductionHypothesis _

theorem url_addCookies (parameters : Dict Json) (request : PreparedRequest) :
    (addCookies parameters request).url = request.url := by
  unfold addCookies
  induction parameters.entries generalizing request with
  | nil => rfl
  | cons entry rest inductionHypothesis =>
      rw [List.foldl_cons, inductionHypothesis, url_appendCookie]

theorem url_addBody (body : Option RequestBody) (request : PreparedRequest) :
    (addBody body request).url = request.url := by
  cases body with
  | none => rfl
  | some body =>
      unfold addBody
      dsimp only
      split <;> rfl

theorem url_ofUrl (template : RequestTemplate) (url : WebUrl) :
    (ofUrl template url).url = addQuery template.parameters.query url := by
  rw [ofUrl, url_addBody, url_addCookies, url_addHeaders]

end RequestFlow.PreparedRequest
