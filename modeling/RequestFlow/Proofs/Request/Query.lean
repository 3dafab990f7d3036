import RequestFlow.Proofs.Request.Placement
import RequestFlow.Proofs.Request.Preparation
import RequestFlow.Proofs.Url.Percent

/-!
Contract: the query of a prepared request.

Owns: the pairs that parameters and credentials add, and the proof that they stand behind those
of the URL text, in order, while the rest of the URL stays as the text has it.

The pairs are those that a reader of the query finds: each is written and read again.
-/

namespace RequestFlow

namespace WebUrl

theorem queryPairs_appendPair (url : WebUrl) (name value : String) :
    (url.appendPair name value).queryPairs = url.queryPairs ++ [(name, value)] := by
  have pairsOfQuery : url.queryPairs = Percent.pairs (url.query.getD "").toList := by
    rw [queryPairs]
    cases url.query <;> rfl
  rw [pairsOfQuery, ← Percent.pairs_appendPair, queryPairs, appendPair]
  simp only [String.toList_ofList]

theorem queryPairs_openQuery (url : WebUrl) : url.openQuery.queryPairs = url.queryPairs := by
  rw [queryPairs, queryPairs, openQuery]
  cases url.query <;> rfl

/-- Two URLs are alike in all but the query. -/
def AlikeButQuery (left right : WebUrl) : Prop :=
  left = { right with query := left.query }

theorem AlikeButQuery.refl (url : WebUrl) : url.AlikeButQuery url := rfl

theorem AlikeButQuery.trans {first second third : WebUrl} (left : first.AlikeButQuery second)
    (right : second.AlikeButQuery third) : first.AlikeButQuery third := by
  unfold AlikeButQuery at left right ⊢
  rw [left, right]

theorem appendPair_alike (url : WebUrl) (name value : String) :
    (url.appendPair name value).AlikeButQuery url := rfl

theorem openQuery_alike (url : WebUrl) : url.openQuery.AlikeButQuery url := rfl

/-- A list of pairs is added in order. -/
theorem foldl_appendPair (pairs : List (String × String)) (url : WebUrl) :
    (pairs.foldl (fun url pair => url.appendPair pair.1 pair.2) url).queryPairs =
        url.queryPairs ++ pairs ∧
      (pairs.foldl (fun url pair => url.appendPair pair.1 pair.2) url).AlikeButQuery url := by
  induction pairs generalizing url with
  | nil => exact ⟨(List.append_nil _).symm, AlikeButQuery.refl url⟩
  | cons pair rest inductionHypothesis =>
      obtain ⟨added, alike⟩ := inductionHypothesis (url.appendPair pair.1 pair.2)
      rw [List.foldl_cons]
      refine ⟨?_, alike.trans (appendPair_alike url pair.1 pair.2)⟩
      rw [added, queryPairs_appendPair, List.append_assoc, List.singleton_append]

end WebUrl

namespace PreparedRequest

/-- The pairs of the query parameters: one for each value that a parameter sends. -/
def parameterPairs (parameters : Dict Json) : List (String × String) :=
  parameters.entries.flatMap fun (name, value) =>
    (queryValues value).map fun text => (name, text)

theorem addQuery_eq (parameters : Dict Json) (url : WebUrl) :
    addQuery parameters url =
      (parameterPairs parameters).foldl (fun url pair => url.appendPair pair.1 pair.2)
        (if parameters.isEmpty then url else url.openQuery) := by
  unfold addQuery parameterPairs
  split
  case isTrue empty =>
    rw [Dict.isEmpty, List.isEmpty_iff] at empty
    rw [empty]
    rfl
  case isFalse =>
    rw [List.foldl_flatMap]
    simp only [List.foldl_map]

theorem queryPairs_addQuery (parameters : Dict Json) (url : WebUrl) :
    (addQuery parameters url).queryPairs = url.queryPairs ++ parameterPairs parameters ∧
      (addQuery parameters url).AlikeButQuery url := by
  rw [addQuery_eq]
  split
  · exact WebUrl.foldl_appendPair _ url
  · obtain ⟨added, alike⟩ := WebUrl.foldl_appendPair (parameterPairs parameters) url.openQuery
    rw [added, WebUrl.queryPairs_openQuery]
    exact ⟨rfl, alike.trans url.openQuery_alike⟩

/-! ## Additions -/

end PreparedRequest

end RequestFlow
