import RequestFlow.Json.Pointer
import RequestFlow.Proofs.Text.Cut

/-!
Contract: the texts of pointers, and lookups along several of them.

Owns: the round trips between segments and their escapes, and between lists of segments and
texts of pointers; the walk along segments as single steps one after another; and the segment
at which a walk that leads nowhere stops.

Escapes are undone in one pass. That this comes to the same as undoing those of slashes first
and those of tildes then is true of checked texts only, in which a tilde never stands alone.
-/

namespace RequestFlow.Pointer

/-! ## Escapes -/

/-- A text with every occurrence of a character replaced. -/
def replaceChar (mark : Char) (put text : List Char) : List Char :=
  text.flatMap fun char => if char = mark then put else [char]

/-- A text with every occurrence of two characters in a row replaced, from the left on. -/
def replacePair (first second put : Char) : List Char → List Char
  | one :: two :: rest =>
      if one = first ∧ two = second then put :: replacePair first second put rest
      else one :: replacePair first second put (two :: rest)
  | text => text

theorem replacePair_cons_of_ne {first second put char : Char} (rest : List Char)
    (apart : char ≠ first) :
    replacePair first second put (char :: rest) =
      char :: replacePair first second put rest := by
  cases rest with
  | nil => rfl
  | cons next rest => rw [replacePair, if_neg fun both => apart both.1]

theorem unescape_cons_of_ne {char : Char} (rest : List Char) (notTilde : char ≠ '~') :
    unescape (char :: rest) = char :: unescape rest := by
  simp [unescape, notTilde]

theorem escapesAreValid_cons_of_ne {char : Char} (rest : List Char) (notTilde : char ≠ '~') :
    escapesAreValid (char :: rest) = escapesAreValid rest := by
  simp [escapesAreValid, notTilde]

/-- Tildes are escaped first, and then slashes. -/
theorem escape_eq_replaceChar (text : List Char) :
    escape text = replaceChar '/' ['~', '1'] (replaceChar '~' ['~', '0'] text) := by
  fun_induction escape text with
  | case1 => rfl
  | case2 rest inductionHypothesis => rw [inductionHypothesis]; rfl
  | case3 rest inductionHypothesis => rw [inductionHypothesis]; rfl
  | case4 char rest notTilde notSlash inductionHypothesis =>
      have kept : ∀ {mark put} (text : List Char), char ≠ mark →
          replaceChar mark put (char :: text) = char :: replaceChar mark put text := by
        intro mark put text apart
        rw [replaceChar, List.flatMap_cons, if_neg apart]
        rfl
      rw [inductionHypothesis, kept rest notTilde, kept _ notSlash]

/-- In a checked text, slashes are put back first, and then tildes. -/
theorem unescape_eq_replacePair {text : List Char} (valid : escapesAreValid text = true) :
    unescape text = replacePair '~' '0' '~' (replacePair '~' '1' '/' text) := by
  fun_induction escapesAreValid text with
  | case1 => rfl
  | case2 rest inductionHypothesis =>
      -- The zero behind the tilde keeps the first pass from reading it as the start of a pair.
      have first : replacePair '~' '1' '/' ('~' :: '0' :: rest) =
          '~' :: '0' :: replacePair '~' '1' '/' rest := by
        rw [replacePair, if_neg (by decide), replacePair_cons_of_ne rest (by decide)]
      rw [first, replacePair, if_pos ⟨rfl, rfl⟩, unescape, inductionHypothesis valid]
  | case3 rest inductionHypothesis =>
      have first : replacePair '~' '1' '/' ('~' :: '1' :: rest) =
          '/' :: replacePair '~' '1' '/' rest := by
        rw [replacePair, if_pos ⟨rfl, rfl⟩]
      rw [first, replacePair_cons_of_ne _ (by decide), unescape, inductionHypothesis valid]
  | case4 => cases valid
  | case5 char rest notZero notOne notTilde inductionHypothesis =>
      rw [unescape_cons_of_ne rest notTilde, replacePair_cons_of_ne rest notTilde,
        replacePair_cons_of_ne _ notTilde, inductionHypothesis valid]

/-- Undoing the escapes of a segment gives the segment. -/
theorem unescape_escape (text : List Char) : unescape (escape text) = text := by
  fun_induction escape text with
  | case1 => rfl
  | case2 rest inductionHypothesis => rw [unescape, inductionHypothesis]
  | case3 rest inductionHypothesis => rw [unescape, inductionHypothesis]
  | case4 char rest notTilde notSlash inductionHypothesis =>
      rw [unescape_cons_of_ne _ notTilde, inductionHypothesis]

/-- A checked text without a slash is the escape of what it stands for. -/
theorem escape_unescape {text : List Char} (valid : escapesAreValid text = true)
    (absent : '/' ∉ text) : escape (unescape text) = text := by
  fun_induction escapesAreValid text with
  | case1 => rfl
  | case2 rest inductionHypothesis =>
      rw [unescape, escape, inductionHypothesis valid fun member => absent (by simp [member])]
  | case3 rest inductionHypothesis =>
      rw [unescape, escape, inductionHypothesis valid fun member => absent (by simp [member])]
  | case4 => cases valid
  | case5 char rest notZero notOne notTilde inductionHypothesis =>
      rw [List.mem_cons, not_or] at absent
      rw [unescape_cons_of_ne rest notTilde, escape, inductionHypothesis valid absent.2]
      · exact notTilde
      · exact fun isSlash => absent.1 isSlash.symm

theorem slash_notMem_escape (text : List Char) : '/' ∉ escape text := by
  fun_induction escape text with
  | case1 => exact List.not_mem_nil
  | case2 rest inductionHypothesis => simp [inductionHypothesis]
  | case3 rest inductionHypothesis => simp [inductionHypothesis]
  | case4 char rest notTilde notSlash inductionHypothesis =>
      simp only [List.mem_cons, not_or]
      exact ⟨fun same => notSlash same.symm, inductionHypothesis⟩

theorem escapesAreValid_escape (text : List Char) : escapesAreValid (escape text) = true := by
  fun_induction escape text with
  | case1 => rfl
  | case2 rest inductionHypothesis => exact inductionHypothesis
  | case3 rest inductionHypothesis => exact inductionHypothesis
  | case4 char rest notTilde notSlash inductionHypothesis =>
      rw [escapesAreValid_cons_of_ne _ notTilde, inductionHypothesis]

/-- No escape reaches over a slash. -/
theorem escapesAreValid_append_slash (before after : List Char) :
    escapesAreValid (before ++ '/' :: after) =
      (escapesAreValid before && escapesAreValid after) := by
  fun_induction escapesAreValid before with
  | case1 => rfl
  | case2 rest inductionHypothesis => exact inductionHypothesis
  | case3 rest inductionHypothesis => exact inductionHypothesis
  | case4 rest notZero notOne =>
      cases rest with
      | nil => rfl
      | cons char rest =>
          have apartZero : char ≠ '0' := fun isZero => notZero rest (by rw [isZero])
          have apartOne : char ≠ '1' := fun isOne => notOne rest (by rw [isOne])
          simp [escapesAreValid, apartZero, apartOne]
  | case5 char rest notZero notOne notTilde inductionHypothesis =>
      rw [List.cons_append, escapesAreValid_cons_of_ne _ notTilde, inductionHypothesis]

theorem escapesAreValid_append_flatMap (first : List Char) (rest : List (List Char)) :
    escapesAreValid (first ++ rest.flatMap ('/' :: ·)) =
      (first :: rest).all escapesAreValid := by
  induction rest generalizing first with
  | nil => simp
  | cons next rest inductionHypothesis =>
      rw [List.flatMap_cons, List.cons_append, escapesAreValid_append_slash,
        inductionHypothesis, List.all_cons (l := next :: rest)]

/-! ## Texts and segments -/

/-- The text of some segments. Each one comes behind a slash, and has its tildes and then its
slashes escaped. -/
def textOf (segments : List String) : String :=
  String.ofList (segments.flatMap fun segment =>
    '/' :: replaceChar '/' ['~', '1'] (replaceChar '~' ['~', '0'] segment.toList))

theorem toList_textOf (segments : List String) :
    (textOf segments).toList =
      (segments.map fun segment => escape segment.toList).flatMap ('/' :: ·) := by
  rw [textOf, String.toList_ofList, List.flatMap_map]
  simp only [escape_eq_replaceChar]

theorem toList_textOf_append (first second : List String) :
    (textOf (first ++ second)).toList = (textOf first).toList ++ (textOf second).toList := by
  rw [toList_textOf, List.map_append, List.flatMap_append, ← toList_textOf, ← toList_textOf]

theorem segments_ofText (segments : List String) :
    Pointer.segments ⟨(textOf segments).toList⟩ = segments := by
  have absent : ∀ piece ∈ [] :: segments.map fun segment => escape segment.toList,
      '/' ∉ piece := by
    refine List.forall_mem_cons.2 ⟨List.not_mem_nil, List.forall_mem_map.2 ?_⟩
    exact fun segment _ => slash_notMem_escape segment.toList
  have pieces := Text.pieces_append_flatMap absent
  rw [List.nil_append] at pieces
  rw [Pointer.segments, toList_textOf, pieces, List.drop_one, List.tail_cons, List.map_map]
  refine (List.map_congr_left fun segment _ => ?_).trans (List.map_id segments)
  simp only [Function.comp_apply, unescape_escape, String.ofList_toList, id]

theorem parse_textOf (segments : List String) :
    parse (textOf segments) = .ok ⟨(textOf segments).toList⟩ := by
  have valid : escapesAreValid (textOf segments).toList = true := by
    rw [toList_textOf, ← List.nil_append (List.flatMap _ _), escapesAreValid_append_flatMap,
      List.all_cons, List.all_map, List.all_eq_true.2 fun segment _ =>
        escapesAreValid_escape segment.toList]
    rfl
  cases segments with
  | nil => rfl
  | cons first rest =>
      rw [toList_textOf, List.map_cons, List.flatMap_cons, List.cons_append] at valid
      rw [parse, toList_textOf, List.map_cons, List.flatMap_cons, List.cons_append,
        Text.dropMark, if_neg (by decide), ofChars, if_pos valid]

/-- What a text is checked for. -/
structure Checked (pointer : Pointer) : Prop where
  starts : pointer.text = [] ∨ ∃ rest, pointer.text = '/' :: rest
  valid : escapesAreValid pointer.text = true

theorem checked_of_parse {text : String} {pointer : Pointer}
    (accepted : parse text = .ok pointer) : pointer.Checked := by
  unfold parse ofChars at accepted
  split at accepted
  case h_1 =>
    cases accepted
    exact ⟨.inl rfl, rfl⟩
  case h_2 rest starts =>
    split at accepted
    case isTrue valid =>
      cases accepted
      exact ⟨.inr ⟨rest, starts⟩, valid⟩
    case isFalse => cases accepted
  case h_3 => cases accepted

/-- A checked text falls into an empty piece and the pieces that its segments are read from. -/
theorem Checked.exists_pieces {pointer : Pointer} (checked : pointer.Checked) :
    ∃ rest, (Text.pieces (· == '/') pointer.text).drop 1 = rest ∧
      pointer.text = rest.flatMap ('/' :: ·) ∧
      ∀ piece ∈ rest, '/' ∉ piece ∧ escapesAreValid piece = true := by
  obtain ⟨first, rest, found, split, absent⟩ := Text.exists_pieces_eq '/' pointer.text
  obtain rfl : first = [] := by
    rcases checked.starts with empty | ⟨more, slash⟩
    · rw [empty] at split
      exact (List.append_eq_nil_iff.1 split.symm).1
    · cases first with
      | nil => rfl
      | cons char first =>
          rw [slash, List.cons_append] at split
          obtain ⟨rfl, -⟩ := List.cons.inj split
          exact absurd List.mem_cons_self (absent _ List.mem_cons_self)
  have valid := checked.valid
  rw [split, escapesAreValid_append_flatMap, List.all_cons, Bool.and_eq_true,
    List.all_eq_true] at valid
  refine ⟨rest, by rw [found]; rfl, split, fun piece member => ?_⟩
  exact ⟨absent piece (List.mem_cons_of_mem _ member), valid.2 piece member⟩

/-- The text of a checked pointer is the text of its segments. -/
theorem Checked.textOf_segments {pointer : Pointer} (checked : pointer.Checked) :
    textOf pointer.segments = pointer.toString := by
  obtain ⟨rest, pieces, split, each⟩ := checked.exists_pieces
  rw [← String.toList_inj, toList_textOf, Pointer.segments, pieces, toString,
    String.toList_ofList, split, List.map_map]
  congr 1
  refine (List.map_congr_left fun piece member => ?_).trans (List.map_id rest)
  simp only [Function.comp_apply, String.toList_ofList, id]
  exact escape_unescape (each piece member).2 (each piece member).1

/-- The segments are read from the pieces by two replacements. -/
theorem Checked.segments_eq {pointer : Pointer} (checked : pointer.Checked) :
    pointer.segments = ((Text.pieces (· == '/') pointer.text).drop 1).map fun piece =>
      String.ofList (replacePair '~' '0' '~' (replacePair '~' '1' '/' piece)) := by
  obtain ⟨rest, pieces, -, each⟩ := checked.exists_pieces
  rw [Pointer.segments, pieces]
  refine List.map_congr_left fun piece member => ?_
  rw [unescape_eq_replacePair (each piece member).2]

/-! ## Lookups -/

/-- The value that some segments lead to, step by step. -/
def follow (segments : List String) (value : Json) : Option Json :=
  segments.foldlM step? value

section Walk

variable {pointer : Pointer} {segments : List String} {value : Json}

theorem follow_cons (segment : String) (rest : List String) (value : Json) :
    follow (segment :: rest) value = (step? value segment).bind (follow rest) :=
  List.foldlM_cons

theorem follow_append (first second : List String) (value : Json) :
    follow (first ++ second) value = (follow first value).bind (follow second) :=
  List.foldlM_append

theorem walk_eq_ok_iff {result : Json} :
    pointer.walk segments value = .ok result ↔ follow segments value = some result := by
  induction segments generalizing value with
  | nil => simp [walk, follow]
  | cons segment rest inductionHypothesis =>
      rw [walk, follow_cons]
      cases step? value segment with
      | none => simp
      | some next => exact inductionHypothesis

/-- A walk fails at the first segment that leads nowhere, and names it. -/
theorem walk_eq_error_iff {error : PointerError} :
    pointer.walk segments value = .error error ↔
      ∃ before segment after parent, segments = before ++ segment :: after ∧
        follow before value = some parent ∧ step? parent segment = none ∧
        error = .notFound pointer.toString segment := by
  induction segments generalizing value with
  | nil => simp [walk]
  | cons first rest inductionHypothesis =>
      rw [walk]
      cases step : step? value first with
      | none =>
          constructor
          · intro failed
            cases failed
            exact ⟨[], first, rest, value, rfl, rfl, step, rfl⟩
          · rintro ⟨before, segment, after, parent, split, followed, -, rfl⟩
            cases before with
            | nil => cases split; rfl
            | cons other before =>
                cases split
                rw [follow_cons, step] at followed
                cases followed
      | some next =>
          rw [inductionHypothesis]
          constructor
          · rintro ⟨before, segment, after, parent, rfl, followed, nowhere, rfl⟩
            refine ⟨first :: before, segment, after, parent, rfl, ?_, nowhere, rfl⟩
            rw [follow_cons, step]
            exact followed
          · rintro ⟨before, segment, after, parent, split, followed, nowhere, rfl⟩
            cases before with
            | nil =>
                cases split
                cases followed
                rw [step] at nowhere
                cases nowhere
            | cons other before =>
                cases split
                rw [follow_cons, step] at followed
                exact ⟨before, segment, after, parent, rfl, followed, nowhere, rfl⟩

end Walk

/-! ## Texts, segments and lookups -/

/-- Every list of segments has a text, which is read as these segments, and a checked text is
the one of its segments. A lookup fails at the first segment that leads nowhere from where the
segments before it lead, and names it. Of two texts, one put behind the other is a checked text
again, and a lookup with it is a lookup with the first and then with the second. -/
theorem texts_biject_and_lookups_compose :
    (∀ segments : List String, ∃ pointer, parse (textOf segments) = .ok pointer ∧
      pointer.toString = textOf segments ∧ pointer.segments = segments) ∧
    (∀ text pointer, parse text = .ok pointer →
      textOf pointer.segments = pointer.toString ∧
      (pointer.segments = ((Text.pieces (· == '/') pointer.text).drop 1).map fun piece =>
        String.ofList (replacePair '~' '0' '~' (replacePair '~' '1' '/' piece))) ∧
      ∀ value error, pointer.lookup value = .error error ↔
        ∃ before segment after parent, pointer.segments = before ++ segment :: after ∧
          follow before value = some parent ∧ step? parent segment = none ∧
          error = .notFound pointer.toString segment) ∧
    ∀ first second left right, parse first = .ok left → parse second = .ok right →
      ∃ joined, parse (left.toString ++ right.toString) = .ok joined ∧
        joined.segments = left.segments ++ right.segments ∧
        ∀ value result, joined.lookup value = .ok result ↔
          ∃ between, left.lookup value = .ok between ∧ right.lookup between = .ok result := by
  refine ⟨fun segments => ?_, fun text pointer accepted => ?_, ?_⟩
  · exact ⟨_, parse_textOf segments, String.ofList_toList, segments_ofText segments⟩
  · have checked := checked_of_parse accepted
    exact ⟨checked.textOf_segments, checked.segments_eq, fun value error => walk_eq_error_iff⟩
  · intro first second left right leftAccepted rightAccepted
    have leftText := (checked_of_parse leftAccepted).textOf_segments
    have rightText := (checked_of_parse rightAccepted).textOf_segments
    have joinedText :
        left.toString ++ right.toString = textOf (left.segments ++ right.segments) := by
      rw [← String.toList_inj, toList_textOf_append, String.toList_append, leftText, rightText]
    have joinedSegments := segments_ofText (left.segments ++ right.segments)
    refine ⟨_, (congrArg parse joinedText).trans (parse_textOf _), joinedSegments,
      fun value result => ?_⟩
    rw [lookup, walk_eq_ok_iff, joinedSegments, follow_append, Option.bind_eq_some_iff]
    simp only [lookup, walk_eq_ok_iff]

/-- A name with a slash, and then one that looks like an escape. -/
theorem slashed_then_tilded :
    parse "/a~1b" = .ok ⟨"/a~1b".toList⟩ ∧ parse "#/~01" = .ok ⟨"/~01".toList⟩ ∧
      ∃ joined, parse "/a~1b/~01" = .ok joined ∧ joined.segments = ["a/b", "~1"] ∧
        joined.lookup (.object [("a/b", .object [("~1", .bool true)])]) = .ok (.bool true) := by
  have first : parse "/a~1b" = .ok ⟨"/a~1b".toList⟩ := by decide
  have second : parse "#/~01" = .ok ⟨"/~01".toList⟩ := by decide
  obtain ⟨joined, accepted, segments, lookups⟩ :=
    texts_biject_and_lookups_compose.2.2 _ _ _ _ first second
  rw [show toString ⟨"/a~1b".toList⟩ ++ toString ⟨"/~01".toList⟩ = "/a~1b/~01" by decide]
    at accepted
  rw [show Pointer.segments ⟨"/a~1b".toList⟩ ++ Pointer.segments ⟨"/~01".toList⟩ =
    ["a/b", "~1"] by decide] at segments
  refine ⟨first, second, joined, accepted, segments, ?_⟩
  exact (lookups _ _).2 ⟨.object [("~1", .bool true)], by decide, by decide⟩

end RequestFlow.Pointer
