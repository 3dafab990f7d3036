import RequestFlow.Proofs.Url.Path

/-!
Contract: a value as one segment of a path.

Owns: the segments behind which a path goes on; the segments that later dot segments take back;
and what a value becomes that is escaped and put into a path: one segment that stands for the
value, unless the value is itself a dot segment.
-/

namespace RequestFlow.Url

/-! ## One segment of a path -/

/-- A text that is a segment as it is written: nothing in it is escaped, and no slash cuts it. -/
def PlainSegment (segment : List Char) : Prop :=
  ∀ char ∈ segment, Percent.keepsBut Percent.pathSet char = true ∧ isSlash char = false

/-- Nothing, or a slash, or the mark of the query or the fragment. -/
def EndsSegment (rest : List Char) : Prop :=
  ∀ char ∈ rest.head?, char = '/' ∨ char = '?' ∨ char = '#'

/-- The segments behind one that an address goes on from. -/
def laterSegments : (address : List Char) → List (List Char)
  | [] => []
  | _ :: more => Text.pieces isSlash more

section Segment

variable {segment rest : List Char}

theorem solid_of_keepsBut {char : Char} (kept : Percent.keepsBut Percent.pathSet char = true) :
    isControlOrBlank char = false ∧ char ≠ '#' ∧ char ≠ '?' := by
  rw [Percent.keepsBut, Bool.and_eq_true, Percent.isPrintable, Bool.and_eq_true] at kept
  have notEscaped : ∀ other ∈ Percent.pathSet, char ≠ other := by
    rintro other member rfl
    rw [List.contains_iff_mem.2 member] at kept
    exact absurd kept.2 (by decide)
  refine ⟨?_, notEscaped _ (by decide), notEscaped _ (by decide)⟩
  have printable : 0x20 ≤ char.toNat := of_decide_eq_true kept.1.1
  have notBlank : char.toNat ≠ 0x20 := fun isBlank =>
    notEscaped ' ' (by decide) (Char.toNat_inj.1 isBlank)
  exact decide_eq_false (by omega)

theorem PlainSegment.encodeSegment_eq (plain : PlainSegment segment) :
    encodeSegment segment = String.ofList segment := by
  rw [encodeSegment, Percent.encode_eq_self fun char member => (plain char member).1]

/-- A plain segment belongs to the address, and all behind it is read as without it. -/
theorem behind_append (plain : PlainSegment segment) (rest : List Char) :
    behind (segment ++ rest) =
      { behind rest with address := segment ++ (behind rest).address } := by
  have solid (char : Char) (member : char ∈ segment) :=
    solid_of_keepsBut (plain char member).1
  rw [behind, cleanedEnd_append fun char member => (solid char member).1]
  exact Pieces.ofText_append (fun member => (solid _ member).2.1 rfl)
    (fun member => (solid _ member).2.2 rfl) _

/-- The mark of the query or the fragment ends the address. -/
theorem address_of_mark {mark : Char} (isMark : mark = '?' ∨ mark = '#') (rest : List Char) :
    (Pieces.ofText (mark :: rest)).address = [] := by
  have cutHere (mark : Char) (rest : List Char) : cutAt mark (mark :: rest) = ([], some rest) := by
    rw [cutAt, ← List.nil_append (mark :: rest), Text.cut_of_notMem rest List.not_mem_nil]
  rw [Pieces.ofText]
  rcases isMark with rfl | rfl
  · rw [← List.singleton_append, cutAt_append (show '#' ∉ ['?'] by decide)]
    dsimp only
    rw [List.singleton_append, cutHere]
  · rw [cutHere]
    rfl

/-- The address behind a segment is empty or goes on with a slash. -/
theorem address_of_endsSegment (ends : EndsSegment rest) :
    (behind rest).address = [] ∨ ∃ more, (behind rest).address = '/' :: more := by
  cases rest with
  | nil => exact .inl rfl
  | cons mark more =>
      rw [behind]
      rcases ends mark rfl with rfl | rfl | rfl
      · rw [cleanedEnd_cons (by decide)]
        have split := Pieces.ofText_append (show '#' ∉ ['/'] by decide) (by decide)
          (cleanedEnd more)
        rw [List.singleton_append] at split
        rw [split]
        exact .inr ⟨_, rfl⟩
      · rw [cleanedEnd_cons (by decide)]
        exact .inl (address_of_mark (.inl rfl) _)
      · rw [cleanedEnd_cons (by decide)]
        exact .inl (address_of_mark (.inr rfl) _)

theorem pieces_of_endsSegment (plain : PlainSegment segment) (ends : EndsSegment rest) :
    Text.pieces isSlash (behind (segment ++ rest)).address =
      segment :: laterSegments (behind rest).address := by
  have whole : Text.pieces isSlash segment = [segment] :=
    Text.pieces_eq_singleton fun char member => (plain char member).2
  rw [behind_append plain]
  dsimp only
  rcases address_of_endsSegment ends with address | ⟨more, address⟩
  · rw [address, List.append_nil, whole]
    rfl
  · rw [address, Text.pieces_append rfl, whole]
    rfl

end Segment

/-! ## Walks -/

section Walk

variable {segment : List Char}

theorem walk_double (isDouble : isDoubleDot segment = true) (done : List String)
    (next : List Char) (rest : List (List Char)) :
    walk done (segment :: next :: rest) = walk (done.drop 1) (next :: rest) := by
  rw [walk, if_pos isDouble, List.isEmpty_cons, if_neg Bool.false_ne_true]

theorem walk_double_last (isDouble : isDoubleDot segment = true) (done : List String) :
    walk done [segment] = "" :: done.drop 1 := by
  rw [walk, if_pos isDouble, List.isEmpty_nil, if_pos rfl]

theorem walk_single (notDouble : isDoubleDot segment ≠ true)
    (isSingle : isSingleDot segment = true) (done : List String) (next : List Char)
    (rest : List (List Char)) :
    walk done (segment :: next :: rest) = walk done (next :: rest) := by
  rw [walk, if_neg notDouble, if_pos isSingle, List.isEmpty_cons, if_neg Bool.false_ne_true]

theorem walk_single_last (notDouble : isDoubleDot segment ≠ true)
    (isSingle : isSingleDot segment = true) (done : List String) :
    walk done [segment] = "" :: done := by
  rw [walk, if_neg notDouble, if_pos isSingle, List.isEmpty_nil, if_pos rfl]

theorem walk_name (notDouble : isDoubleDot segment ≠ true)
    (notSingle : isSingleDot segment ≠ true) (done : List String) (rest : List (List Char)) :
    walk done (segment :: rest) = walk (encodeSegment segment :: done) rest := by
  rw [walk, if_neg notDouble, if_neg notSingle]

end Walk

/-- No dot segment takes back a segment that has so many of later ones above it. -/
def staysUnder : (above : Nat) → List (List Char) → Bool
  | _, [] => true
  | above, segment :: rest =>
      if isDoubleDot segment then 0 < above && staysUnder (above - 1) rest
      else if isSingleDot segment then staysUnder above rest
      else staysUnder (above + 1) rest

/-- The path goes on behind an open one without taking back the segment it begins with. -/
def KeepsSegment (rest : List Char) : Prop :=
  staysUnder 0 (laterSegments (behind rest).address) = true

/-- What stays under later segments is left as it is. -/
theorem walk_of_staysUnder {later : List (List Char)} {above : List String}
    (stays : staysUnder above.length later = true) :
    ∃ made, ∀ done, walk (above ++ done) later = made ++ done := by
  induction later generalizing above with
  | nil => exact ⟨above, fun done => rfl⟩
  | cons segment rest inductionHypothesis =>
      simp only [staysUnder] at stays
      split at stays
      case isTrue isDouble =>
        rw [Bool.and_eq_true, decide_eq_true_eq, List.length_pos_iff] at stays
        obtain ⟨top, above, rfl⟩ := List.exists_cons_of_ne_nil stays.1
        obtain ⟨made, walked⟩ := inductionHypothesis stays.2
        cases rest with
        | nil => exact ⟨"" :: above, fun done => walk_double_last isDouble _⟩
        | cons next rest =>
            exact ⟨made, fun done => (walk_double isDouble _ _ _).trans (walked done)⟩
      case isFalse notDouble =>
        split at stays
        case isTrue isSingle =>
          obtain ⟨made, walked⟩ := inductionHypothesis stays
          cases rest with
          | nil => exact ⟨"" :: above, fun done => walk_single_last notDouble isSingle _⟩
          | cons next rest =>
              exact ⟨made, fun done =>
                (walk_single notDouble isSingle _ _ _).trans (walked done)⟩
        case isFalse notSingle =>
          have staysHere : staysUnder (encodeSegment segment :: above).length rest = true := stays
          obtain ⟨made, walked⟩ := inductionHypothesis staysHere
          exact ⟨made, fun done => (walk_name notDouble notSingle _ _).trans (walked done)⟩

/-- Of a segment that is taken back nothing is left. -/
theorem walk_of_taken {later : List (List Char)} {above : List String}
    (taken : staysUnder above.length later = false) (left right : String) (done : List String) :
    walk (above ++ left :: done) later = walk (above ++ right :: done) later := by
  induction later generalizing above with
  | nil => cases taken
  | cons segment rest inductionHypothesis =>
      simp only [staysUnder] at taken
      split at taken
      case isTrue isDouble =>
        cases rest with
        | nil =>
            rw [walk_double_last isDouble, walk_double_last isDouble]
            cases above with
            | nil => rfl
            | cons top above => cases taken
        | cons next rest =>
            rw [walk_double isDouble, walk_double isDouble]
            cases above with
            | nil => rfl
            | cons top above =>
                rw [List.length_cons] at taken
                simp only [List.cons_append, List.drop_one, List.tail_cons]
                exact inductionHypothesis (by simpa using taken)
      case isFalse notDouble =>
        split at taken
        case isTrue isSingle =>
          cases rest with
          | nil => cases taken
          | cons next rest =>
              rw [walk_single notDouble isSingle, walk_single notDouble isSingle]
              exact inductionHypothesis taken
        case isFalse notSingle =>
          have takenHere : staysUnder (encodeSegment segment :: above).length rest = false := taken
          rw [walk_name notDouble notSingle, walk_name notDouble notSingle]
          exact inductionHypothesis takenHere

/-! ## Values -/

/-- The text that a segment stands for. -/
def readSegment (segment : String) : String :=
  String.ofList (Text.ofBytes (Percent.decode segment.toList))

theorem readSegment_component (text : String) : readSegment (Percent.component text) = text := by
  rw [readSegment, Percent.component, String.toList_ofList, Percent.decode_encode (by decide),
    Text.ofBytes_bytes, String.ofList_toList]

/-- What holds of each ASCII code holds of each ASCII character. -/
theorem forall_ascii (holds : Char → Prop) (each : ∀ code < 128, holds (Char.ofNat code))
    {char : Char} (isAscii : char.toNat < 128) : holds char := by
  rw [← Char.ofNat_toNat char]
  exact each _ isAscii

theorem toNat_of_isUnreserved {char : Char} (unreserved : Percent.isUnreserved char = true) :
    char.toNat < 128 := by
  simp only [Percent.isUnreserved, Text.isAlphanumeric, Text.isLetter, Text.isDigit,
    Bool.or_eq_true, Bool.and_eq_true, decide_eq_true_eq, beq_iff_eq, Char.le_def,
    UInt32.le_iff_toNat_le] at unreserved
  rcases unreserved with (((((letter | digit) | rfl) | rfl) | rfl) | rfl)
  · rcases letter with ⟨-, high⟩ | ⟨-, high⟩
    · exact Nat.lt_of_le_of_lt high (by decide)
    · exact Nat.lt_of_le_of_lt high (by decide)
  · exact Nat.lt_of_le_of_lt digit.2 (by decide)
  all_goals decide

/-- A value is escaped so that a path has it as one segment. -/
theorem plainSegment_component (text : String) :
    PlainSegment (Percent.component text).toList := by
  intro char member
  rw [Percent.component, String.toList_ofList] at member
  have keepsAlphanumeric (char : Char) (alphanumeric : Text.isAlphanumeric char) :
      Percent.isUnreserved char := by
    simp [Percent.isUnreserved, alphanumeric]
  rcases Percent.keep_or_percent_of_mem keepsAlphanumeric member with unreserved | rfl
  · have plain : ∀ code < 128, Percent.isUnreserved (Char.ofNat code) = true →
        Percent.keepsBut Percent.pathSet (Char.ofNat code) = true ∧
          isSlash (Char.ofNat code) = false := by decide +kernel
    exact forall_ascii (fun char => Percent.isUnreserved char = true →
      Percent.keepsBut Percent.pathSet char = true ∧ isSlash char = false) plain
      (toNat_of_isUnreserved unreserved) unreserved
  · decide

/-! ## Dot segments -/

/-- The texts that have a text in lower case as their own lower case. -/
def caseVariants : List Char → List (List Char)
  | [] => [[]]
  | char :: rest => (caseVariants rest).flatMap fun more =>
      [char :: more, Text.asciiUpper char :: more]

theorem asciiLower_cases (char : Char) :
    char = Text.asciiLower char ∨ char = Text.asciiUpper (Text.asciiLower char) := by
  by_cases capital : 'A' ≤ char ∧ char ≤ 'Z'
  case neg => exact .inl (if_neg capital).symm
  case pos =>
    have isAscii : char.toNat < 128 :=
      Nat.lt_of_le_of_lt (UInt32.le_iff_toNat_le.1 (Char.le_def.1 capital.2)) (by decide)
    have each : ∀ code < 128, 'A' ≤ Char.ofNat code ∧ Char.ofNat code ≤ 'Z' →
        Char.ofNat code = Text.asciiUpper (Text.asciiLower (Char.ofNat code)) := by decide +kernel
    exact .inr (forall_ascii (fun char => 'A' ≤ char ∧ char ≤ 'Z' →
      char = Text.asciiUpper (Text.asciiLower char)) each isAscii capital)

theorem mem_caseVariants (text : List Char) :
    text ∈ caseVariants (text.map Text.asciiLower) := by
  induction text with
  | nil => exact List.mem_singleton.2 rfl
  | cons char rest inductionHypothesis =>
      rw [List.map_cons, caseVariants, List.mem_flatMap]
      refine ⟨rest, inductionHypothesis, ?_⟩
      rw [List.mem_cons, List.mem_singleton]
      rcases asciiLower_cases char with same | same
      · exact .inl (by rw [← same])
      · exact .inr (by rw [← same])

/-- What holds of all case variants of some words holds of each text that is one of the words
but for case. -/
theorem forall_variants {words : List String} {holds : List Char → Prop}
    (each : ∀ word ∈ words, ∀ variant ∈ caseVariants word.toList, holds variant)
    {segment : List Char} (isOne : words.contains (Text.lower (String.ofList segment)) = true) :
    holds segment := by
  refine each _ (List.contains_iff_mem.1 isOne) _ ?_
  rw [Text.lower, String.toList_ofList, String.toList_ofList]
  exact mem_caseVariants segment

theorem readSegment_of_isSingleDot {segment : List Char} (isSingle : isSingleDot segment = true) :
    readSegment (String.ofList segment) = "." := by
  have each : ∀ word ∈ [".", "%2e"], ∀ variant ∈ caseVariants word.toList,
      readSegment (String.ofList variant) = "." := by decide +kernel
  rw [isSingleDot] at isSingle
  exact forall_variants each isSingle

theorem readSegment_of_isDoubleDot {segment : List Char} (isDouble : isDoubleDot segment = true) :
    readSegment (String.ofList segment) = ".." := by
  have each : ∀ word ∈ ["..", ".%2e", "%2e.", "%2e%2e"], ∀ variant ∈ caseVariants word.toList,
      readSegment (String.ofList variant) = ".." := by decide +kernel
  rw [isDoubleDot] at isDouble
  exact forall_variants each isDouble

/-- A value is a dot segment of a path only if it is one before it is escaped. -/
theorem isSingleDot_component_iff {text : String} :
    isSingleDot (Percent.component text).toList = true ↔ text = "." := by
  constructor
  · intro isSingle
    have read := readSegment_of_isSingleDot isSingle
    rwa [String.ofList_toList, readSegment_component] at read
  · rintro rfl
    decide +kernel

theorem isDoubleDot_component_iff {text : String} :
    isDoubleDot (Percent.component text).toList = true ↔ text = ".." := by
  constructor
  · intro isDouble
    have read := readSegment_of_isDoubleDot isDouble
    rwa [String.ofList_toList, readSegment_component] at read
  · rintro rfl
    decide +kernel

/-- A dot segment leaves no segment in its place but an empty one. -/
theorem eq_empty_of_dot {segment : List Char}
    (isDot : isSingleDot segment = true ∨ isDoubleDot segment = true)
    {later : List (List Char)} {made : List String}
    (walked : ∀ done, walk done later = made ++ done) {done : List String} {found : String}
    (place : (walk done (segment :: later)).reverse = done.reverse ++ found :: made.reverse) :
    found = "" := by
  have place : walk done (segment :: later) = made ++ found :: done := by
    have reversed := congrArg List.reverse place
    simpa using reversed
  have walkedFrom : ∃ fewer, fewer.length ≤ done.length ∧
      walk done (segment :: later) = if later.isEmpty then "" :: fewer else walk fewer later := by
    by_cases isDouble : isDoubleDot segment = true
    case pos =>
      refine ⟨done.drop 1, by simp, ?_⟩
      cases later with
      | nil => exact walk_double_last isDouble done
      | cons next later => exact walk_double isDouble done next later
    case neg =>
      refine ⟨done, Nat.le_refl _, ?_⟩
      cases later with
      | nil => exact walk_single_last isDouble (isDot.resolve_right isDouble) done
      | cons next later =>
          exact walk_single isDouble (isDot.resolve_right isDouble) done next later
  obtain ⟨fewer, shorter, walkedDot⟩ := walkedFrom
  rw [place] at walkedDot
  cases later with
  | nil =>
      obtain rfl : made = [] := by simpa [walk] using (walked []).symm
      exact (List.cons.inj walkedDot).1
  | cons next later =>
      rw [List.isEmpty_cons, if_neg Bool.false_ne_true, walked] at walkedDot
      have lengths := congrArg List.length walkedDot
      simp only [List.length_append, List.length_cons] at lengths
      omega

theorem walk_component {text : String} (notDot : text ≠ "." ∧ text ≠ "..") (done : List String)
    (later : List (List Char)) :
    walk done ((Percent.component text).toList :: later) =
      walk (Percent.component text :: done) later := by
  have notSingle : isSingleDot (Percent.component text).toList ≠ true := by
    rw [ne_eq, isSingleDot_component_iff]
    exact notDot.1
  have notDouble : isDoubleDot (Percent.component text).toList ≠ true := by
    rw [ne_eq, isDoubleDot_component_iff]
    exact notDot.2
  rw [walk_name notDouble notSingle, (plainSegment_component text).encodeSegment_eq,
    String.ofList_toList]

/-- A value stands for itself in its place of a path, unless it is a dot segment. -/
theorem exists_segment_iff {later : List (List Char)} {made : List String}
    (walked : ∀ done, walk done later = made ++ done) (done : List String) (text : String) :
    (∃ segment, (walk done ((Percent.component text).toList :: later)).reverse =
        done.reverse ++ segment :: made.reverse ∧ readSegment segment = text) ↔
      text ≠ "." ∧ text ≠ ".." := by
  constructor
  · rintro ⟨segment, place, read⟩
    by_contra isDotText
    have isDot : isSingleDot (Percent.component text).toList = true ∨
        isDoubleDot (Percent.component text).toList = true := by
      rw [isSingleDot_component_iff, isDoubleDot_component_iff]
      by_contra notDot
      exact isDotText (not_or.1 notDot)
    obtain rfl := eq_empty_of_dot isDot walked place
    obtain rfl : "" = text := read
    exact isDotText ⟨by decide, by decide⟩
  · intro notDot
    refine ⟨Percent.component text, ?_, readSegment_component text⟩
    rw [walk_component notDot, walked]
    simp

/-- A value that is put into a path, between a slash and the end of the segment. Only the path of
the URL depends on the value. If no dot segment behind it takes the segment back, the value has a
segment of its own, where a plain text has one, and stands for itself there, unless it is a dot
segment; and if one does, the path does not depend on the value. -/
theorem OpensPath.parse_value {front rest : List Char} {base : WebUrl}
    (opens : OpensPath front base) (ends : EndsSegment rest) (text : String) :
    ∃ url usual,
      parse (String.ofList (front ++ (Percent.component text).toList ++ rest)) = .ok (.web url) ∧
      parse (String.ofList (front ++ (Percent.component "x").toList ++ rest)) =
        .ok (.web usual) ∧
      url = { usual with path := url.path } ∧
      (KeepsSegment rest → ∃ later,
        usual.path = base.path.dropLast ++ "x" :: later ∧
        ((∃ segment, url.path = base.path.dropLast ++ segment :: later ∧
            readSegment segment = text) ↔ text ≠ "." ∧ text ≠ "..")) ∧
      (¬ KeepsSegment rest → text ≠ "." ∧ text ≠ ".." → url.path = usual.path) := by
  obtain ⟨done, isPath, parsed⟩ := opens.parse_append
  have parsedValue (text : String) :
      parse (String.ofList (front ++ (Percent.component text).toList ++ rest)) =
        .ok (.web (continued base (behind rest) (walk done
          ((Percent.component text).toList :: laterSegments (behind rest).address)).reverse)) := by
    have plain := plainSegment_component text
    have parsed := parsed ((Percent.component text).toList ++ rest)
    rw [pieces_of_endsSegment plain ends, behind_append plain, ← List.append_assoc] at parsed
    exact parsed
  have plainX : "x" ≠ "." ∧ "x" ≠ ".." := by decide
  have component : Percent.component "x" = "x" := by decide +kernel
  refine ⟨_, _, parsedValue text, parsedValue "x", continued_alike _ _ _ _, ?_, ?_⟩
  · intro stays
    have staysHere : staysUnder ([] : List String).length
        (laterSegments (behind rest).address) = true := stays
    obtain ⟨made, walked⟩ := walk_of_staysUnder staysHere
    refine ⟨made.reverse, ?_, ?_⟩
    · rw [path_continued, walk_component plainX, component, isPath, List.dropLast_concat]
      refine (congrArg List.reverse (walked ("x" :: done))).trans ?_
      simp
    · rw [isPath, List.dropLast_concat, path_continued]
      exact exists_segment_iff walked done text
  · intro taken notDot
    have takenHere : staysUnder ([] : List String).length
        (laterSegments (behind rest).address) = false := Bool.eq_false_iff.2 taken
    rw [path_continued, path_continued, walk_component notDot, walk_component plainX]
    exact congrArg List.reverse (walk_of_taken takenHere _ _ done)

end RequestFlow.Url
