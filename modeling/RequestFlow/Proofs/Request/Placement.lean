import RequestFlow.Request.Prepared

/-!
Contract: what is placed on a request after its preparation.

Owns: the changes that may follow a preparation, of which a credential is one; what each
credential comes to; and what every list of changes keeps.

A credential that cannot be placed leaves the request as it was. When every credential can be
placed, placing them one after another is a list of changes.
-/

namespace RequestFlow

/-- What a change adds to a request. -/
inductive Addition where
  | header (name value : String)
  | query (name value : String)
  | cookie (name value : String)

/-- A change to a prepared request. -/
inductive Placement where
  | plain (addition : Addition)
  | credential (acquired : AcquiredCredential)

/-- What a credential adds: nothing if it is a key without a name. -/
def AcquiredCredential.addition? (acquired : AcquiredCredential) : Option Addition :=
  match acquired.credential.kind with
  | .apiKey =>
      acquired.credential.name.map fun name =>
        match acquired.credential.place.getD .header with
        | .header => .header name acquired.value
        | .query => .query name acquired.value
        | .cookie => .cookie name acquired.value
  | .bearer | .oauth2 => some (.header authorizationHeader ("Bearer " ++ acquired.value))
  | .basic =>
      some (.header authorizationHeader
        ("Basic " ++ String.ofList (Text.base64 (Text.bytes acquired.value.toList))))

def Placement.addition? : Placement → Option Addition
  | .plain addition => some addition
  | .credential acquired => acquired.addition?

namespace PreparedRequest

def add (request : PreparedRequest) : Addition → PreparedRequest
  | .header name value => request.setHeader name value
  | .query name value => request.appendQuery name value
  | .cookie name value => request.appendCookie name value

def place (request : PreparedRequest) : Placement → PreparedRequest
  | .plain addition => request.add addition
  | .credential acquired => (request.applyCredential acquired).toOption.getD request

def placeAll (request : PreparedRequest) (placements : List Placement) : PreparedRequest :=
  placements.foldl place request

/-! ## Credentials -/

theorem applyCredential_eq (request : PreparedRequest) (acquired : AcquiredCredential) :
    request.applyCredential acquired =
      match acquired.addition? with
      | some addition => .ok (request.add addition)
      | none => .error (.credentialName acquired.name) := by
  unfold applyCredential AcquiredCredential.addition?
  cases acquired.credential.kind with
  | apiKey =>
      cases acquired.credential.name with
      | none => rfl
      | some name => cases acquired.credential.place.getD .header <;> rfl
  | bearer => rfl
  | oauth2 => rfl
  | basic => rfl

theorem place_eq (request : PreparedRequest) (placement : Placement) :
    request.place placement = (placement.addition?.map request.add).getD request := by
  cases placement with
  | plain addition => rfl
  | credential acquired =>
      rw [place, applyCredential_eq, Placement.addition?]
      cases acquired.addition? <;> rfl

/-- A list of changes makes its additions, in order. -/
theorem placeAll_eq (request : PreparedRequest) (placements : List Placement) :
    request.placeAll placements =
      (placements.filterMap Placement.addition?).foldl add request := by
  induction placements generalizing request with
  | nil => rfl
  | cons first rest inductionHypothesis =>
      rw [placeAll, List.foldl_cons, ← placeAll, inductionHypothesis, place_eq,
        List.filterMap_cons]
      cases first.addition? <;> rfl

/-- What each addition keeps, every list of changes keeps. -/
theorem placeAll_keeps {Kept : PreparedRequest → Prop}
    (keeps : ∀ request addition, Kept request → Kept (add request addition))
    {request : PreparedRequest} (start : Kept request) (placements : List Placement) :
    Kept (request.placeAll placements) := by
  rw [placeAll_eq]
  induction placements.filterMap Placement.addition? generalizing request with
  | nil => exact start
  | cons first rest inductionHypothesis => exact inductionHypothesis (keeps request first start)

end PreparedRequest

end RequestFlow
