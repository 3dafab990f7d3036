import RequestFlow.Proofs.Request.PlaceholderWalk
import RequestFlow.Proofs.Request.Query
import RequestFlow.Proofs.Url.Segment

/-!
Contract: the value of a path parameter as a segment of the URL.

Owns: the placeholders that are whole segments of a path, and the proof that the URL of a prepared
request has there one segment that stands for the value, and is in all else as with a plain text
in that place.

Two values have no such segment: one dot and two dots are not escaped, and as segments they stand
for a directory.
-/

namespace RequestFlow

namespace PreparedRequest

theorem foldl_appendPair_path (pairs : List (String × String)) (url : WebUrl)
    (path : List String) :
    pairs.foldl (fun url pair => url.appendPair pair.1 pair.2) { url with path := path } =
      { pairs.foldl (fun url pair => url.appendPair pair.1 pair.2) url with path := path } := by
  induction pairs generalizing url with
  | nil => rfl
  | cons pair rest inductionHypothesis => exact inductionHypothesis (url.appendPair pair.1 pair.2)

/-- A path has no part in what the query parameters add. -/
theorem addQuery_path (parameters : Dict Json) (url : WebUrl) (path : List String) :
    addQuery parameters { url with path := path } =
      { addQuery parameters url with path := path } := by
  rw [addQuery_eq, addQuery_eq]
  split
  case isTrue => exact foldl_appendPair_path _ url path
  case isFalse => exact foldl_appendPair_path _ url.openQuery path

theorem addQuery_alike {parameters : Dict Json} {url usual : WebUrl}
    (alike : url = { usual with path := url.path }) :
    addQuery parameters url =
      { addQuery parameters usual with path := (addQuery parameters url).path } := by
  rw [alike, addQuery_path]

theorem path_addQuery (parameters : Dict Json) (url : WebUrl) :
    (addQuery parameters url).path = url.path := by
  have alike := (queryPairs_addQuery parameters url).2
  rw [alike]

/-- A placeholder that is a whole segment of the path of a template: it stands behind a slash, with
a URL that has a path and nothing else before it, and a segment ends behind it. -/
structure SegmentPlaceholder (template : RequestTemplate) (before name after : List Char)
    (base : WebUrl) : Prop where
  written : template.url.toList = before ++ Placeholder.source name ++ after
  settled : Placeholder.Settled before
  apart : name.head? ≠ some '\x7b'
  closes : '\x7d' ∉ name
  slash : before.getLast? = some '/'
  parsed : Url.parse (Placeholder.fill template.parameters.path (String.ofList before)) =
    .ok (.web base)
  noQuery : base.query = none
  noFragment : base.fragment = none
  ends : Url.EndsSegment after

section Filled

variable {template : RequestTemplate} {before name after : List Char} {base : WebUrl}
  {parameters : Dict Json}

/-- What is before a placeholder that is a segment opens the path. -/
theorem SegmentPlaceholder.opensPath (place : SegmentPlaceholder template before name after base) :
    Url.OpensPath (Placeholder.fillChars template.parameters.path before) base where
  ends := Placeholder.getLast?_fillChars place.settled place.slash
  parsed := by
    have parsed := place.parsed
    rwa [Placeholder.fill, String.toList_ofList] at parsed
  noQuery := place.noQuery
  noFragment := place.noFragment

/-- The end of a segment stays one when placeholders are filled in. -/
theorem endsSegment_fillChars (parameters : Dict Json) (ends : Url.EndsSegment after) :
    Url.EndsSegment (Placeholder.fillChars parameters after) := by
  cases after with
  | nil => rwa [Placeholder.fillChars_nil]
  | cons mark rest =>
      have isMark := ends mark rfl
      have plain : mark ≠ '\x7b' := by
        rcases isMark with rfl | rfl | rfl <;> decide
      rw [Placeholder.fillChars_char plain]
      intro char isHead
      cases isHead
      exact isMark

/-- A template with a placeholder in it, filled in. -/
theorem fill_of_placeholder {value : Json} {text : String}
    (written : text.toList = before ++ Placeholder.source name ++ after)
    (settled : Placeholder.Settled before) (apart : name.head? ≠ some '\x7b')
    (closes : '\x7d' ∉ name) (held : parameters.get? (String.ofList name) = some value) :
    Placeholder.fill parameters text = String.ofList (Placeholder.fillChars parameters before ++
      (Percent.component value.plainText).toList ++ Placeholder.fillChars parameters after) := by
  rw [Placeholder.fill, written, List.append_assoc, Placeholder.fillChars_append settled,
    Placeholder.fillChars_source apart closes, Placeholder.value_of_get? held, List.append_assoc]

end Filled

/-- A path parameter whose placeholder is a whole segment. The template can be prepared, and so can
it with the text `x` in the place of the placeholder, which is what the parameter with the value
`x` gives if its placeholder is nowhere else in the template. The two URLs differ in the path only.
The paths have the same segments before and behind the place, and the segment there stands for the
value, exactly if the value is not one or two dots; unless a dot segment of the template takes
the segment back: then the paths are the same for all other values. -/
theorem path_value_is_segment {template : RequestTemplate} {before name after : List Char}
    {base : WebUrl} {value : Json} (place : SegmentPlaceholder template before name after base)
    (held : template.parameters.path.get? (String.ofList name) = some value) :
    ∃ request usual, prepare template = .ok request ∧
      prepare { template with url := String.ofList (before ++ 'x' :: after) } = .ok usual ∧
      (¬ Placeholder.source name <:+: before → ¬ Placeholder.source name <:+: after →
        prepare { template with parameters := { template.parameters with
          path := template.parameters.path.insert (String.ofList name) (.string "x") } } =
            .ok usual) ∧
      request.url = { usual.url with path := request.url.path } ∧
      (Url.KeepsSegment (Placeholder.fillChars template.parameters.path after) → ∃ later,
        usual.url.path = base.path.dropLast ++ "x" :: later ∧
        ((∃ segment, request.url.path = base.path.dropLast ++ segment :: later ∧
            Url.readSegment segment = value.plainText) ↔
          value.plainText ≠ "." ∧ value.plainText ≠ "..")) ∧
      (¬ Url.KeepsSegment (Placeholder.fillChars template.parameters.path after) →
        value.plainText ≠ "." ∧ value.plainText ≠ ".." → request.url.path = usual.url.path) := by
  obtain ⟨url, usual, parsed, parsedUsual, alike, kept, taken⟩ :=
    place.opensPath.parse_value (endsSegment_fillChars template.parameters.path place.ends)
      value.plainText
  have component : (Percent.component "x").toList = ['x'] := by decide +kernel
  have pathOf (url : WebUrl) : (ofUrl template url).url.path = url.path := by
    rw [url_ofUrl, path_addQuery]
  refine ⟨ofUrl template url, ofUrl template usual, prepare_eq_ok_iff.2 ⟨url, ?_, rfl⟩,
    prepare_eq_ok_iff.2 ⟨usual, ?_, rfl⟩, fun absentBefore absentBehind =>
      prepare_eq_ok_iff.2 ⟨usual, ?_, rfl⟩, ?_, ?_, ?_⟩
  · rw [fill_of_placeholder place.written place.settled place.apart place.closes held]
    exact parsed
  · have plain : 'x' ≠ '\x7b' := by decide
    rw [Placeholder.fill, String.toList_ofList, Placeholder.fillChars_append place.settled,
      Placeholder.fillChars_char plain]
    rw [component, List.append_assoc] at parsedUsual
    exact parsedUsual
  · have heldX : (template.parameters.path.insert (String.ofList name) (.string "x")).get?
        (String.ofList name) = some (.string "x") := by
      rw [Dict.get?_insert, if_pos rfl]
    rw [fill_of_placeholder place.written place.settled place.apart place.closes heldX,
      Placeholder.fillChars_insert name _ before absentBefore,
      Placeholder.fillChars_insert name _ after absentBehind]
    exact parsedUsual
  · rw [url_ofUrl, url_ofUrl]
    exact addQuery_alike alike
  · rw [pathOf, pathOf]
    exact kept
  · rw [pathOf, pathOf]
    exact taken

/-- The posts of a user. -/
def userPosts (user : String) : RequestTemplate :=
  ⟨"GET", "http://[::1]/users/\x7bid\x7d/posts",
    ⟨Dict.ofList [("id", .string user)], ∅, ∅, ∅⟩, none⟩

/-- The URL of a path on this host. -/
def localUrl (path : List String) : WebUrl :=
  ⟨.http, none, .ipv6 [0, 0, 0, 0, 0, 0, 0, 1], none, path, none, none⟩

/-- A user whose name has a slash in it has one segment. -/
theorem userPosts_slash_segment :
    SegmentPlaceholder (userPosts "a/b") "http://[::1]/users/".toList "id".toList "/posts".toList
        (localUrl ["users", ""]) ∧
      ∃ request segment later, prepare (userPosts "a/b") = .ok request ∧
        request.url.path = "users" :: segment :: later ∧ Url.readSegment segment = "a/b" := by
  have place : SegmentPlaceholder (userPosts "a/b") "http://[::1]/users/".toList "id".toList
      "/posts".toList (localUrl ["users", ""]) :=
    { written := by decide +kernel
      settled := Placeholder.settled_of_notMem (by decide +kernel)
      apart := by decide +kernel
      closes := by decide +kernel
      slash := by decide +kernel
      parsed := by decide +kernel
      noQuery := rfl
      noFragment := rfl
      ends := by
        intro char isHead
        obtain rfl : '/' = char := Option.some.inj isHead
        exact .inl rfl }
  have held : (userPosts "a/b").parameters.path.get? (String.ofList "id".toList) =
      some (.string "a/b") := by decide +kernel
  have keeps : Url.KeepsSegment
      (Placeholder.fillChars (userPosts "a/b").parameters.path "/posts".toList) := by
    unfold Url.KeepsSegment
    decide +kernel
  obtain ⟨request, usual, prepared, -, -, -, kept, -⟩ := path_value_is_segment place held
  obtain ⟨later, -, isSegment⟩ := kept keeps
  obtain ⟨segment, isPath, read⟩ := isSegment.2 ⟨by decide, by decide⟩
  exact ⟨place, request, segment, later, prepared, isPath, read⟩

/-- Two dots as a user lead to the posts of all: the path loses two segments. -/
theorem userPosts_dots_climb :
    ∃ request usual, prepare (userPosts "..") = .ok request ∧
      prepare (userPosts "x") = .ok usual ∧ request.url.path = ["posts"] ∧
      usual.url.path = ["users", "x", "posts"] := by
  refine ⟨_, _, prepare_eq_ok_iff.2 ⟨localUrl ["posts"], by decide +kernel, rfl⟩,
    prepare_eq_ok_iff.2 ⟨localUrl ["users", "x", "posts"], by decide +kernel, rfl⟩, ?_, ?_⟩
  · rw [url_ofUrl, path_addQuery, localUrl]
  · rw [url_ofUrl, path_addQuery, localUrl]

end PreparedRequest

end RequestFlow
