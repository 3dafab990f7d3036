import RequestFlow.Proofs.Url.Percent
import RequestFlow.Url.Parser

/-!
Contract: what a text becomes as a URL when its path goes on.

Owns: a reading taken apart, and the parts of a URL that stay when text is put behind a slash of
its path.
-/

namespace RequestFlow.Url

open Text

/-! ## Readings taken apart -/

/-- The URL that is made of an authority and the pieces around it. -/
def webUrl (scheme : WebScheme) (authority : Authority) (pieces : Pieces) : WebUrl where
  scheme := scheme
  user := authority.user
  host := authority.host
  port := authority.port.filter (· != scheme.defaultPort)
  path := segments authority.path
  query := pieces.query.map fun query =>
    String.ofList (Percent.encode (Percent.keepsBut Percent.querySet) query)
  fragment := pieces.fragment.map fun fragment =>
    String.ofList (Percent.encode (Percent.keepsBut Percent.fragmentSet) fragment)

theorem readWeb_eq_ok_iff {scheme : WebScheme} {pieces : Pieces} {url : WebUrl} :
    readWeb scheme pieces = .ok url ↔ ∃ authority,
      readAuthority pieces.address = .ok authority ∧ url = webUrl scheme authority pieces := by
  unfold readWeb
  cases readAuthority pieces.address with
  | error error =>
      constructor
      · intro made
        cases made
      · rintro ⟨_, ⟨⟩, -⟩
  | ok authority =>
      constructor
      · intro made
        cases made
        exact ⟨authority, rfl, rfl⟩
      · rintro ⟨_, ⟨⟩, rfl⟩
        rfl

theorem parse_of_word {text : String} {scheme : WebScheme} {rest : List Char}
    (isCut : cutScheme (cleaned text.toList) = some (scheme.word, rest)) :
    parse text = (readWeb scheme (Pieces.ofText rest)).map .web := by
  unfold parse
  rw [isCut]
  cases scheme with
  | http =>
      dsimp only
      rw [if_pos (by decide)]
      cases readWeb .http (Pieces.ofText rest) <;> rfl
  | https =>
      dsimp only
      rw [if_neg (by decide), if_pos (by decide)]
      cases readWeb .https (Pieces.ofText rest) <;> rfl

/-- Only texts with a web scheme are read as web URLs. -/
theorem exists_word_of_parse {text : String} {url : WebUrl} (parsed : parse text = .ok (.web url)) :
    ∃ scheme rest, cutScheme (cleaned text.toList) = some (WebScheme.word scheme, rest) := by
  unfold parse at parsed
  split at parsed
  case h_1 => cases parsed
  case h_2 scheme rest isCut =>
    by_cases isHttp : scheme = WebScheme.http.word
    case pos => exact ⟨.http, rest, by rw [isCut, isHttp]⟩
    case neg =>
      by_cases isHttps : scheme = WebScheme.https.word
      case pos => exact ⟨.https, rest, by rw [isCut, isHttps]⟩
      case neg =>
        dsimp only at parsed
        rw [beq_false_of_ne isHttp, beq_false_of_ne isHttps, if_neg Bool.false_ne_true,
          if_neg Bool.false_ne_true] at parsed
        split at parsed
        · cases read : readAuthority (Pieces.ofText rest).address <;>
            (rw [read] at parsed; cases parsed)
        · split at parsed
          · cases checked : checkFile (Pieces.ofText rest).address <;>
              (rw [checked] at parsed; cases parsed)
          · cases checked : checkOpaque (Pieces.ofText rest) <;>
              (rw [checked] at parsed; cases parsed)

theorem parse_eq_web_iff {text : String} {url : WebUrl} :
    parse text = .ok (.web url) ↔ ∃ scheme rest authority,
      cutScheme (cleaned text.toList) = some (WebScheme.word scheme, rest) ∧
        readAuthority (Pieces.ofText rest).address = .ok authority ∧
        url = webUrl scheme authority (Pieces.ofText rest) := by
  constructor
  · intro parsed
    obtain ⟨scheme, rest, isCut⟩ := exists_word_of_parse parsed
    rw [parse_of_word isCut] at parsed
    cases read : readWeb scheme (Pieces.ofText rest) with
    | error error =>
        rw [read] at parsed
        cases parsed
    | ok found =>
        rw [read] at parsed
        cases parsed
        obtain ⟨authority, isAuthority, isUrl⟩ := readWeb_eq_ok_iff.1 read
        exact ⟨scheme, rest, authority, isCut, isAuthority, isUrl⟩
  · rintro ⟨scheme, rest, authority, isCut, isAuthority, isUrl⟩
    rw [parse_of_word isCut, readWeb_eq_ok_iff.2 ⟨authority, isAuthority, isUrl⟩]
    rfl

/-! ## Cuts of a text that goes on -/

/-- What a text leaves behind a part that ends with no blank. -/
def cleanedEnd (text : List Char) : List Char :=
  (text.reverse.dropWhile isControlOrBlank).reverse.filter fun char => !isTabOrBreak char

/-- What stands before a slash is cleaned at its start only. -/
def cleanedStart (text : List Char) : List Char :=
  (text.dropWhile isControlOrBlank).filter fun char => !isTabOrBreak char

theorem isTabOrBreak_of_solid {char : Char} (solid : isControlOrBlank char = false) :
    isTabOrBreak char = false := by
  rw [Bool.eq_false_iff]
  intro isBreak
  simp only [isTabOrBreak, Bool.or_eq_true, beq_iff_eq] at isBreak
  rcases isBreak with (rfl | rfl) | rfl <;> exact absurd solid (by decide)

theorem cleaned_append {mark : Char} (solid : isControlOrBlank mark = false)
    (front rest : List Char) :
    cleaned (front ++ mark :: rest) = cleanedStart front ++ mark :: cleanedEnd rest := by
  rw [cleaned, dropWhile_append_cons solid, List.reverse_append, List.reverse_cons,
    List.append_assoc, List.singleton_append, dropWhile_append_cons solid]
  simp [cleanedStart, cleanedEnd, isTabOrBreak_of_solid solid]

theorem cleanedEnd_cons {char : Char} (solid : isControlOrBlank char = false) (rest : List Char) :
    cleanedEnd (char :: rest) = char :: cleanedEnd rest := by
  rw [cleanedEnd, List.reverse_cons, dropWhile_append_cons solid]
  simp [cleanedEnd, isTabOrBreak_of_solid solid]

theorem cleanedEnd_append {front : List Char}
    (solid : ∀ char ∈ front, isControlOrBlank char = false) (rest : List Char) :
    cleanedEnd (front ++ rest) = front ++ cleanedEnd rest := by
  induction front with
  | nil => rfl
  | cons char front inductionHypothesis =>
      obtain ⟨here, later⟩ := List.forall_mem_cons.1 solid
      rw [List.cons_append, cleanedEnd_cons here, inductionHypothesis later, List.cons_append]

theorem cutScheme_append {text rest : List Char} {scheme : String}
    (isCut : cutScheme text = some (scheme, rest)) (more : List Char) :
    cutScheme (text ++ more) = some (scheme, rest ++ more) := by
  unfold cutScheme at isCut ⊢
  split at isCut
  case h_1 before after found =>
    rw [Text.cut_append found]
    dsimp only
    split at isCut
    case isTrue valid =>
      cases isCut
      rw [if_pos valid]
    case isFalse => cases isCut
  case h_2 => cases isCut

theorem cutAt_append {mark : Char} {front : List Char} (absent : mark ∉ front)
    (rest : List Char) :
    cutAt mark (front ++ rest) = (front ++ (cutAt mark rest).1, (cutAt mark rest).2) := by
  unfold cutAt
  cases found : Text.cut mark rest with
  | none =>
      have uncut : Text.cut mark (front ++ rest) = none := by
        rw [Text.cut_eq_none_iff, List.mem_append, not_or]
        exact ⟨absent, Text.cut_eq_none_iff.1 found⟩
      rw [uncut]
  | some sides =>
      obtain ⟨before, after⟩ := sides
      obtain ⟨rfl, absentBehind⟩ := Text.eq_append_of_cut found
      have absentBefore : mark ∉ front ++ before := by
        rw [List.mem_append, not_or]
        exact ⟨absent, absentBehind⟩
      rw [← List.append_assoc, Text.cut_of_notMem after absentBefore]

theorem cutAt_of_none {mark : Char} {text : List Char} (uncut : (cutAt mark text).2 = none) :
    mark ∉ text ∧ (cutAt mark text).1 = text := by
  unfold cutAt at uncut ⊢
  cases found : Text.cut mark text with
  | none => exact ⟨Text.cut_eq_none_iff.1 found, rfl⟩
  | some sides =>
      rw [found] at uncut
      cases uncut

namespace Pieces

theorem ofText_append {front : List Char} (noFragment : '#' ∉ front) (noQuery : '?' ∉ front)
    (rest : List Char) :
    ofText (front ++ rest) =
      { ofText rest with address := front ++ (ofText rest).address } := by
  unfold ofText
  rw [cutAt_append noFragment]
  dsimp only
  rw [cutAt_append noQuery]

theorem ofText_of_none {text : List Char} (noQuery : (ofText text).query = none)
    (noFragment : (ofText text).fragment = none) :
    '#' ∉ text ∧ '?' ∉ text ∧ (ofText text).address = text := by
  unfold ofText at noQuery noFragment ⊢
  dsimp only at noQuery noFragment ⊢
  obtain ⟨noHash, whole⟩ := cutAt_of_none noFragment
  rw [whole] at noQuery ⊢
  obtain ⟨noMark, address⟩ := cutAt_of_none noQuery
  exact ⟨noHash, noMark, address⟩

end Pieces

/-- The host and what is with it are read up to the first slash behind the ones it follows. -/
theorem readAuthority_congr {left right authority path : List Char}
    (leftAuthority : ((left.dropWhile isSlash).takeWhile fun char => !isSlash char) = authority)
    (rightAuthority : ((right.dropWhile isSlash).takeWhile fun char => !isSlash char) = authority)
    (rightPath : ((right.dropWhile isSlash).dropWhile fun char => !isSlash char) = path)
    {found : Authority} (read : readAuthority left = .ok found) :
    readAuthority right = .ok { found with path := path } := by
  unfold readAuthority at read ⊢
  simp only [leftAuthority, rightAuthority, rightPath] at read ⊢
  generalize cutUser authority = sides at read ⊢
  obtain ⟨userText, hostText⟩ := sides
  generalize cutPort false hostText = ends at read ⊢
  obtain ⟨host, portText⟩ := ends
  dsimp only at read ⊢
  split at read
  case isTrue => cases read
  case isFalse nonempty =>
    rw [if_neg nonempty]
    cases isHost : Host.read host with
    | error error =>
        rw [isHost] at read
        cases read
    | ok host =>
        cases isPort : port? (portText.getD []) with
        | error error =>
            rw [isHost, isPort] at read
            cases read
        | ok port =>
            rw [isHost, isPort] at read
            cases read
            rfl

/-- A host that ends with a slash is read no further, and the path goes on behind it. -/
theorem readAuthority_append {front : List Char} {authority : Authority}
    (read : readAuthority (front ++ ['/']) = .ok authority) :
    ∃ before, authority.path = before ++ ['/'] ∧ ∀ rest,
      readAuthority (front ++ '/' :: rest) =
        .ok { authority with path := before ++ '/' :: rest } := by
  let address := front.dropWhile isSlash
  have nonempty : address ≠ [] := by
    intro nothing
    have allSlashes : (front ++ ['/']).dropWhile isSlash = [] := by
      rw [List.dropWhile_append, if_pos (List.isEmpty_iff.2 nothing)]
      rfl
    unfold readAuthority at read
    rw [allSlashes] at read
    cases read
  have addressOf (rest : List Char) :
      (front ++ '/' :: rest).dropWhile isSlash = address ++ '/' :: rest := by
    rw [List.dropWhile_append, if_neg (by rwa [List.isEmpty_iff])]
  have authorityOf (rest : List Char) :
      ((front ++ '/' :: rest).dropWhile isSlash).takeWhile (fun char => !isSlash char) =
        address.takeWhile fun char => !isSlash char := by
    rw [addressOf]
    exact takeWhile_append_cons rfl _ _
  have pathOf (rest : List Char) :
      ((front ++ '/' :: rest).dropWhile isSlash).dropWhile (fun char => !isSlash char) =
        (address.dropWhile fun char => !isSlash char) ++ '/' :: rest := by
    rw [addressOf]
    exact dropWhile_append_cons rfl _ _
  have atEnd := readAuthority_congr (authorityOf []) (authorityOf []) (pathOf []) read
  refine ⟨_, ?_, fun rest =>
    readAuthority_congr (authorityOf []) (authorityOf rest) (pathOf rest) read⟩
  have same := congrArg (fun result => result.map Authority.path) (read.symm.trans atEnd)
  exact Except.ok.inj same

/-! ## Walks -/

/-- The segments that are done before others follow. -/
def climb : (done : List String) → List (List Char) → List String
  | done, [] => done
  | done, segment :: rest =>
      if isDoubleDot segment then climb (done.drop 1) rest
      else if isSingleDot segment then climb done rest
      else climb (encodeSegment segment :: done) rest

theorem walk_append {rest : List (List Char)} (nonempty : rest ≠ [])
    (earlier : List (List Char)) (done : List String) :
    walk done (earlier ++ rest) = walk (climb done earlier) rest := by
  induction earlier generalizing done with
  | nil => rfl
  | cons segment earlier inductionHypothesis =>
      have goesOn : (earlier ++ rest).isEmpty = false := by
        rw [Bool.eq_false_iff, ne_eq, List.isEmpty_iff, List.append_eq_nil_iff, not_and]
        exact fun _ => nonempty
      rw [List.cons_append, walk, climb, goesOn]
      split
      · exact inductionHypothesis _
      · split
        · exact inductionHypothesis _
        · exact inductionHypothesis _

/-- The path up to a slash has the same segments before whatever comes behind it. -/
theorem exists_done (before : List Char) : ∃ done, ∀ rest,
    segments (before ++ '/' :: rest) = (walk done (Text.pieces isSlash rest)).reverse := by
  cases before with
  | nil => exact ⟨[], fun rest => rfl⟩
  | cons first before =>
      refine ⟨climb [] (Text.pieces isSlash before), fun rest => ?_⟩
      rw [segments, List.cons_append, List.drop_one, List.tail_cons,
        Text.pieces_append rfl, walk_append (Text.pieces_ne_nil rest)]

/-- A URL text without a query and a fragment that ends with a slash: its path goes on behind
it. -/
structure OpensPath (front : List Char) (base : WebUrl) : Prop where
  ends : front.getLast? = some '/'
  parsed : parse (String.ofList front) = .ok (.web base)
  noQuery : base.query = none
  noFragment : base.fragment = none

/-- What stands behind an open path, taken apart. -/
def behind (rest : List Char) : Pieces := Pieces.ofText (cleanedEnd rest)

/-- What stands behind the scheme ends as the text does. -/
theorem exists_rest_of_cutScheme {front rest : List Char} {scheme : String}
    (isCut : cutScheme (front ++ ['/']) = some (scheme, rest)) :
    ∃ shorter, rest = shorter ++ ['/'] := by
  unfold cutScheme at isCut
  split at isCut
  case h_2 => cases isCut
  case h_1 before after found =>
    split at isCut
    case isFalse => cases isCut
    case isTrue =>
      cases isCut
      have ends := congrArg List.getLast? (Text.eq_append_of_cut found).1
      rw [List.getLast?_concat, List.getLast?_append, List.getLast?_cons, Option.some_or] at ends
      cases last : rest.getLast? with
      | none =>
          rw [last] at ends
          exact absurd ends (by decide)
      | some char =>
          rw [last] at ends
          obtain ⟨shorter, isRest⟩ := List.getLast?_eq_some_iff.1 last
          refine ⟨shorter, ?_⟩
          rw [isRest, show '/' = char from Option.some.inj ends]

/-- A URL with another path, and with the query and the fragment of some pieces. -/
def continued (base : WebUrl) (pieces : Pieces) (path : List String) : WebUrl :=
  { base with
    path := path
    query := pieces.query.map fun query =>
      String.ofList (Percent.encode (Percent.keepsBut Percent.querySet) query)
    fragment := pieces.fragment.map fun fragment =>
      String.ofList (Percent.encode (Percent.keepsBut Percent.fragmentSet) fragment) }

@[simp] theorem path_continued (base : WebUrl) (pieces : Pieces) (path : List String) :
    (continued base pieces path).path = path := rfl

theorem continued_alike (base : WebUrl) (pieces : Pieces) (left right : List String) :
    continued base pieces left =
      { continued base pieces right with path := (continued base pieces left).path } := rfl

/-- Of a URL whose path goes on, the path, the query and the fragment are told by what comes
behind; all else stays. -/
theorem OpensPath.parse_append {front : List Char} {base : WebUrl}
    (opens : OpensPath front base) :
    ∃ done, base.path = done.reverse ++ [""] ∧ ∀ rest,
      parse (String.ofList (front ++ rest)) = .ok (.web (continued base (behind rest)
        (walk done (Text.pieces isSlash (behind rest).address)).reverse)) := by
  obtain ⟨start, rfl⟩ := List.getLast?_eq_some_iff.1 opens.ends
  have parsed := opens.parsed
  obtain ⟨scheme, text, authority, isCut, read, isBase⟩ := parse_eq_web_iff.1 parsed
  rw [String.toList_ofList, cleaned_append (by decide), show cleanedEnd [] = [] from rfl] at isCut
  obtain ⟨address, rfl⟩ := exists_rest_of_cutScheme isCut
  obtain ⟨noHash, noMark, isAddress⟩ :
      '#' ∉ address ++ ['/'] ∧ '?' ∉ address ++ ['/'] ∧
        (Pieces.ofText (address ++ ['/'])).address = address ++ ['/'] := by
    apply Pieces.ofText_of_none
    · have noQuery := opens.noQuery
      rw [isBase] at noQuery
      exact Option.map_eq_none_iff.1 noQuery
    · have noFragment := opens.noFragment
      rw [isBase] at noFragment
      exact Option.map_eq_none_iff.1 noFragment
  have piecesOf (rest : List Char) :
      Pieces.ofText (address ++ '/' :: cleanedEnd rest) =
        { behind rest with address := address ++ '/' :: (behind rest).address } := by
    have split := Pieces.ofText_append noHash noMark (cleanedEnd rest)
    rw [List.append_assoc, List.append_assoc] at split
    exact split
  rw [isAddress] at read
  obtain ⟨before, isPath, readOn⟩ := readAuthority_append read
  obtain ⟨done, walked⟩ := exists_done before
  refine ⟨done, ?_, fun rest => parse_eq_web_iff.2 ⟨scheme, address ++ '/' :: cleanedEnd rest,
    { authority with path := before ++ '/' :: (behind rest).address }, ?_, ?_, ?_⟩⟩
  · have path : base.path = segments (before ++ ['/']) := by rw [isBase, webUrl, isPath]
    exact (path.trans (walked [])).trans List.reverse_cons
  · have more := cutScheme_append isCut (cleanedEnd rest)
    rw [String.toList_ofList, List.append_assoc, List.singleton_append,
      cleaned_append (by decide)]
    simpa only [List.append_assoc, List.singleton_append] using more
  · rw [piecesOf]
    exact readOn _
  · rw [piecesOf, webUrl, ← walked, isBase]
    rfl

end RequestFlow.Url
