import RequestFlow.Assignment.Evaluation
import RequestFlow.Proofs.Http.Headers
import RequestFlow.Proofs.Text.Cut

/-!
Contract: the cookies that are found in a header.

Owns: the pairs that the pieces of a header come to, and the lookup of a name among them; names
that a cookie may have; the cookies that a response sets, with their attributes, joined in one
header; and the proof that each of them is found.

A lookup knows pieces between separators, and not which of them are cookies. So an attribute
that is written like a cookie hides a later cookie of its name. Nothing else does.
-/

namespace RequestFlow

open Text

namespace Cookie

/-! ## Pairs of a header -/

/-- A piece is cut at its first equals sign; the blanks around it are those around its sides. -/
theorem pair?_eq (piece : List Char) :
    pair? piece = (cut '=' piece).map fun (name, value) => (trim name, trim value) := by
  cases found : cut '=' piece with
  | none =>
      have absent : '=' ∉ trim piece := by
        intro member
        obtain ⟨left, right, -, -, split⟩ := exists_blanks_around_trim piece
        apply cut_eq_none_iff.1 found
        rw [split]
        exact List.mem_append_left _ (List.mem_append_right _ member)
      rw [pair?, cut_eq_none_iff.2 absent, Option.map_none]
  | some sides =>
      obtain ⟨name, value⟩ := sides
      obtain ⟨rfl, absent⟩ := eq_append_of_cut found
      have absentInside : '=' ∉ trimStart name := fun member =>
        absent (List.dropWhile_suffix isBlank |>.subset member)
      rw [pair?, trim_append_cons rfl, cut_of_notMem _ absentInside]
      show some (trim (trimStart name), trim (trimEnd value)) = _
      rw [trim_trimStart, trim_trimEnd]
      rfl

theorem pair?_of_notMem {name : List Char} (absent : '=' ∉ name) (value : List Char) :
    pair? (name ++ '=' :: value) = some (trim name, trim value) := by
  rw [pair?_eq, cut_of_notMem value absent]
  rfl

/-- Blanks in front of a piece do not count. -/
theorem pair?_cons_blank (piece : List Char) : pair? (' ' :: piece) = pair? piece := by
  have sameTrim : trim (' ' :: piece) = trim piece := by
    have blanks : trim ([' '] ++ piece ++ []) = trim piece := trim_append_blanks piece rfl rfl
    rwa [List.append_nil] at blanks
  rw [pair?, pair?, sameTrim]

/-- No separator stands in a value. -/
theorem isSeparator_of_mem_pairs {header : List Char} {pair : List Char × List Char}
    (member : pair ∈ pairs header) : ∀ char ∈ pair.2, isSeparator char = false := by
  obtain ⟨piece, isPiece, isPair⟩ := List.mem_filterMap.1 member
  rw [pair?_eq, Option.map_eq_some_iff] at isPair
  obtain ⟨⟨name, value⟩, found, rfl⟩ := isPair
  obtain ⟨rfl, -⟩ := eq_append_of_cut found
  intro char inside
  obtain ⟨left, right, -, -, split⟩ := exists_blanks_around_trim value
  have inValue : char ∈ value := by
    rw [split]
    exact List.mem_append_left _ (List.mem_append_right _ inside)
  exact isMark_of_mem_pieces isPiece char
    (List.mem_append_right _ (List.mem_cons_of_mem _ inValue))

/-- Texts that are joined by a separator and a blank are searched one after the other. -/
theorem pairs_joined {separator : Char} (isOne : isSeparator separator = true)
    (earlier later : List Char) :
    pairs (earlier ++ separator :: ' ' :: later) = pairs earlier ++ pairs later := by
  have behindBlank : pairs (' ' :: later) = pairs later := by
    rw [pairs, pairs, pieces, if_neg (by decide)]
    cases found : pieces isSeparator later with
    | nil => exact absurd found (pieces_ne_nil later)
    | cons piece more => rw [List.filterMap_cons, List.filterMap_cons, pair?_cons_blank]
  rw [pairs, pieces_append isOne, List.filterMap_append, ← pairs, ← pairs, behindBlank]

theorem pairs_intercalate {separator : Char} (isOne : isSeparator separator = true)
    (texts : List (List Char)) :
    pairs ([separator, ' '].intercalate texts) = texts.flatMap pairs := by
  induction texts with
  | nil => rfl
  | cons text rest inductionHypothesis =>
      cases rest with
      | nil => simp
      | cons next more =>
          rw [List.intercalate_cons_cons, List.append_assoc, List.cons_append,
            List.cons_append, List.nil_append, pairs_joined isOne, inductionHypothesis]
          exact List.flatMap_cons.symm

/-! ## Lookups -/

/-- A piece that is a pair with this name. -/
def IsPair (piece : List Char) (name : String) : Prop :=
  ∃ key value, piece = key ++ '=' :: value ∧ '=' ∉ key ∧ trim key = name.toList

theorem isPair_iff {piece : List Char} {name : String} :
    IsPair piece name ↔ ∃ pair, pair? piece = some pair ∧ pair.1 = name.toList := by
  constructor
  · rintro ⟨key, value, rfl, absent, named⟩
    exact ⟨_, pair?_of_notMem absent value, named⟩
  · rintro ⟨pair, isPair, named⟩
    rw [pair?_eq, Option.map_eq_some_iff] at isPair
    obtain ⟨⟨key, value⟩, found, rfl⟩ := isPair
    obtain ⟨split, absent⟩ := eq_append_of_cut found
    exact ⟨key, value, split, absent, named⟩

theorem exists_isPair_iff {pieces : List (List Char)} {name : String} :
    (∃ piece ∈ pieces, IsPair piece name) ↔
      ∃ pair ∈ pieces.filterMap pair?, pair.1 = name.toList := by
  simp only [isPair_iff, List.mem_filterMap]
  constructor
  · rintro ⟨piece, member, pair, isPair, named⟩
    exact ⟨pair, ⟨piece, member, isPair⟩, named⟩
  · rintro ⟨pair, ⟨piece, member, isPair⟩, named⟩
    exact ⟨piece, member, pair, isPair, named⟩

/-- A piece of the text is a pair with this name. -/
def Shows (text name : String) : Prop :=
  ∃ piece ∈ pieces isSeparator text.toList, IsPair piece name

/-- A piece of the text, but not the first one, is a pair with this name. -/
def ShowsBehind (text name : String) : Prop :=
  ∃ piece ∈ (pieces isSeparator text.toList).tail, IsPair piece name

theorem shows_iff {text name : String} :
    Shows text name ↔ ∃ pair ∈ pairs text.toList, pair.1 = name.toList :=
  exists_isPair_iff

instance (text name : String) : Decidable (Shows text name) :=
  decidable_of_iff _ shows_iff.symm

instance (text name : String) : Decidable (ShowsBehind text name) :=
  decidable_of_iff _ exists_isPair_iff.symm

/-- The value of the first pair with a name. -/
def first? (pairs : List (List Char × List Char)) (name : String) : Option String :=
  (pairs.find? fun pair => pair.1 == name.toList).map fun pair => String.ofList pair.2

theorem first?_eq_none_iff {pairs : List (List Char × List Char)} {name : String} :
    first? pairs name = none ↔ ∀ pair ∈ pairs, pair.1 ≠ name.toList := by
  rw [first?, Option.map_eq_none_iff, List.find?_eq_none]
  simp only [beq_iff_eq, ne_eq]

theorem exists_of_first? {pairs : List (List Char × List Char)} {name value : String}
    (found : first? pairs name = some value) : ∃ pair ∈ pairs, pair.2 = value.toList := by
  rw [first?, Option.map_eq_some_iff] at found
  obtain ⟨pair, isFirst, rfl⟩ := found
  exact ⟨pair, List.mem_of_find?_eq_some isFirst, (String.toList_ofList).symm⟩

theorem first?_append {before : List (List Char × List Char)} {name : String}
    (absent : ∀ pair ∈ before, pair.1 ≠ name.toList) (value : List Char)
    (after : List (List Char × List Char)) :
    first? (before ++ (name.toList, value) :: after) name = some (String.ofList value) := by
  have nowhere : before.find? (fun pair => pair.1 == name.toList) = none := by
    rw [List.find?_eq_none]
    intro pair member
    rw [beq_iff_eq]
    exact absent pair member
  rw [first?, List.find?_append, nowhere, Option.none_or, List.find?_cons,
    beq_self_eq_true]
  rfl

/-! ## Names -/

/-- A text without separators. -/
def IsPlain (text : String) : Prop := ∀ char ∈ text.toList, isSeparator char = false

instance (text : String) : Decidable (IsPlain text) :=
  decidable_of_iff (text.toList.all fun char => !isSeparator char) (by simp [IsPlain])

/-- A name that a cookie may have. -/
structure IsName (name : String) : Prop where
  filled : name ≠ ""
  noEquals : '=' ∉ name.toList
  noSeparator : IsPlain name
  trimmed : Text.trimmed name = name

instance (name : String) : Decidable (IsName name) :=
  decidable_of_iff
    (name ≠ "" ∧ '=' ∉ name.toList ∧ IsPlain name ∧ Text.trimmed name = name)
    ⟨fun ⟨filled, noEquals, noSeparator, trimmed⟩ => ⟨filled, noEquals, noSeparator, trimmed⟩,
      fun isName => ⟨isName.filled, isName.noEquals, isName.noSeparator, isName.trimmed⟩⟩

theorem trim_toList {text : String} (isTrimmed : Text.trimmed text = text) :
    trim text.toList = text.toList := by
  conv => rhs; rw [← isTrimmed, Text.trimmed, String.toList_ofList]

/-- What is read of a value: the text before its first separator, without blanks around it. -/
def readValue (value : String) : String :=
  String.ofList (trim (value.toList.takeWhile fun char => !isSeparator char))

theorem readValue_eq_self {value : String} (noSeparator : IsPlain value)
    (isTrimmed : Text.trimmed value = value) : readValue value = value := by
  have plain : ∀ char ∈ value.toList, (!isSeparator char) = true := by
    intro char member
    rw [noSeparator char member]
    rfl
  rw [readValue, List.takeWhile_eq_self_iff.2 plain, ← Text.trimmed, isTrimmed]

/-- What is written for a cookie comes to a pair of its name, with the pairs that its value shows
behind a separator. -/
theorem pairs_written {name : String} (isName : IsName name) (value : String) :
    pairs (name ++ "=" ++ value).toList =
      (name.toList, (readValue value).toList) ::
        (pieces isSeparator value.toList).tail.filterMap pair? := by
  have plain : ∀ char ∈ name.toList ++ ['='], isSeparator char = false := by
    intro char member
    rcases List.mem_append.1 member with inName | isEquals
    · exact isName.noSeparator char inName
    · obtain rfl := List.mem_singleton.1 isEquals
      rfl
  -- Up to the equals sign nothing separates, so the first piece is the name and the value's first.
  have split : (name ++ "=" ++ value).toList = (name.toList ++ ['=']) ++ value.toList := by
    simp
  rw [split, pairs, pieces_append_plain plain, List.append_assoc, List.singleton_append,
    List.filterMap_cons_some (pair?_of_notMem isName.noEquals _), trim_toList isName.trimmed,
    readValue, String.toList_ofList]

end Cookie

namespace AssignmentRule

theorem named_of_path? {rule : AssignmentRule} {name : String} (given : rule.path? = some name)
    (find : String → Option Json) :
    rule.named find =
      match find name with
      | some value => .ok value
      | none => .error (.notFound rule.part name rule.side) := by
  cases found : find name <;> simp only [named, given, found]

/-- The rule that sets a variable to a cookie of a message. -/
def ofCookie (variableName : String) (side : ExchangeSide) (name : String) : AssignmentRule :=
  ⟨variableName, side, .cookie, some name⟩

/-- The rule looks for its name in the cookie header of its side. -/
theorem evaluate_ofCookie (exchange : Exchange) (side : ExchangeSide) {name : String}
    (filled : name ≠ "") (variableName : String) :
    (ofCookie variableName side name).evaluate exchange =
      match (headerOf exchange side (cookieHeaderOf side)).bind fun header =>
        Cookie.value? header name with
      | some value => .ok (.string value)
      | none => .error (.notFound .cookie name side) := by
  have given : (ofCookie variableName side name).path? = some name := by
    rw [ofCookie, path?, Option.filter_some, if_pos]
    simpa using filled
  show (ofCookie variableName side name).named _ = _
  rw [named_of_path? given]
  dsimp only [ofCookie]
  cases (headerOf exchange side (cookieHeaderOf side)).bind fun header =>
    Cookie.value? header name <;> rfl

end AssignmentRule

/-! ## Cookies that a response sets -/

/-- A cookie as a response sets it: a name, a value, and attributes such as a date of expiry. -/
structure SetCookie where
  name : String
  value : String
  attributes : List String
  isName : Cookie.IsName name
  noSeparator : Cookie.IsPlain value
  trimmed : Text.trimmed value = value

namespace SetCookie

def text (cookie : SetCookie) : String :=
  String.intercalate "; " ((cookie.name ++ "=" ++ cookie.value) :: cookie.attributes)

/-- The header that sets some cookies. -/
def joined (cookies : List SetCookie) : String :=
  String.intercalate ", " (cookies.map text)

/-- A lookup of the name ends at this cookie: it has the name, or an attribute of it looks as if
it had. -/
def Meets (cookie : SetCookie) (name : String) : Prop :=
  cookie.name = name ∨ ∃ detail ∈ cookie.attributes, Cookie.Shows detail name

instance (cookie : SetCookie) (name : String) : Decidable (cookie.Meets name) :=
  inferInstanceAs (Decidable (_ ∨ _))

/-- The pairs of a cookie: itself, then what its attributes show. -/
def pairs (cookie : SetCookie) : List (List Char × List Char) :=
  (cookie.name.toList, cookie.value.toList) ::
    cookie.attributes.flatMap fun detail => Cookie.pairs detail.toList

theorem pairs_text (cookie : SetCookie) : Cookie.pairs cookie.text.toList = cookie.pairs := by
  have own : Cookie.pairs (cookie.name ++ "=" ++ cookie.value).toList =
      [(cookie.name.toList, cookie.value.toList)] := by
    rw [Cookie.pairs_written cookie.isName,
      Cookie.readValue_eq_self cookie.noSeparator cookie.trimmed,
      pieces_eq_singleton cookie.noSeparator]
    rfl
  rw [text, String.toList_intercalate]
  show Cookie.pairs ([';', ' '].intercalate _) = _
  rw [Cookie.pairs_intercalate rfl, List.map_cons, List.flatMap_cons, own, List.flatMap_map,
    List.singleton_append, pairs]

theorem pairs_joined (cookies : List SetCookie) :
    Cookie.pairs (joined cookies).toList = cookies.flatMap pairs := by
  rw [joined, String.toList_intercalate]
  show Cookie.pairs ([',', ' '].intercalate _) = _
  rw [Cookie.pairs_intercalate rfl, List.map_map, List.flatMap_map]
  congr 1
  funext cookie
  exact cookie.pairs_text

theorem meets_iff {cookie : SetCookie} {name : String} :
    cookie.Meets name ↔ ∃ pair ∈ cookie.pairs, pair.1 = name.toList := by
  have sameName : cookie.name = name ↔ cookie.name.toList = name.toList := String.toList_inj.symm
  simp only [Meets, Cookie.shows_iff, pairs, List.exists_mem_cons_iff, List.mem_flatMap, sameName]
  refine or_congr_right ⟨?_, ?_⟩
  · rintro ⟨detail, member, pair, isPair, named⟩
    exact ⟨pair, ⟨detail, member, isPair⟩, named⟩
  · rintro ⟨pair, ⟨detail, member, isPair⟩, named⟩
    exact ⟨detail, member, pair, isPair, named⟩

theorem value?_joined (cookies : List SetCookie) (name : String) :
    Cookie.value? (joined cookies) name = Cookie.first? (cookies.flatMap pairs) name := by
  rw [Cookie.value?, Cookie.first?, pairs_joined]

/-- The first cookie that a lookup meets is found if it has the name. -/
theorem value?_joined_append {before : List SetCookie} {cookie : SetCookie}
    (unmet : ∀ earlier ∈ before, ¬ earlier.Meets cookie.name) (after : List SetCookie) :
    Cookie.value? (joined (before ++ cookie :: after)) cookie.name = some cookie.value := by
  have absent : ∀ pair ∈ before.flatMap pairs, pair.1 ≠ cookie.name.toList := by
    intro pair member named
    obtain ⟨earlier, isEarlier, isPair⟩ := List.mem_flatMap.1 member
    exact unmet earlier isEarlier (meets_iff.2 ⟨pair, isPair, named⟩)
  rw [value?_joined, List.flatMap_append, List.flatMap_cons, pairs, List.cons_append,
    Cookie.first?_append absent, String.ofList_toList]

theorem value?_joined_eq_none_iff {cookies : List SetCookie} {name : String} :
    Cookie.value? (joined cookies) name = none ↔ ∀ cookie ∈ cookies, ¬ cookie.Meets name := by
  rw [value?_joined, Cookie.first?_eq_none_iff]
  constructor
  · intro absent cookie member meets
    obtain ⟨pair, isPair, named⟩ := meets_iff.1 meets
    exact absent pair (List.mem_flatMap.2 ⟨cookie, member, isPair⟩) named
  · intro unmet pair member named
    obtain ⟨cookie, isCookie, isPair⟩ := List.mem_flatMap.1 member
    exact unmet cookie isCookie (meets_iff.2 ⟨pair, isPair, named⟩)

/-- In a response whose cookies are joined in one header, a rule with the name of a cookie takes
the value of the first cookie of this name, unless an attribute before it is written like a
cookie of the name. A name that no cookie has, and no attribute seems to have, is not found. -/
theorem joined_cookies_reachable {exchange : Exchange} {header : String}
    {cookies : List SetCookie} (isHeader : sameIgnoringCase header "set-cookie" = true)
    (single : ∀ other ∈ exchange.response.headers.keys,
      sameIgnoringCase other "set-cookie" = true → other = header)
    (held : exchange.response.headers.get? header = some (joined cookies))
    (variableName : String) :
    (∀ before cookie after, cookies = before ++ cookie :: after →
      (∀ earlier ∈ before, ¬ earlier.Meets cookie.name) →
        (AssignmentRule.ofCookie variableName .response cookie.name).evaluate exchange =
          .ok (.string cookie.value)) ∧
    (∀ name, name ≠ "" →
      ((AssignmentRule.ofCookie variableName .response name).evaluate exchange =
          .error (.notFound .cookie name .response) ↔
        ∀ cookie ∈ cookies, ¬ cookie.Meets name)) ∧
    (AssignmentRule.ofCookie variableName .response "").evaluate exchange =
      .error (.missingPath .cookie) := by
  have found : AssignmentRule.headerOf exchange .response "set-cookie" = some (joined cookies) :=
    Headers.value?_of_single isHeader single held
  refine ⟨?_, ?_, rfl⟩
  · rintro before cookie after rfl unmet
    rw [AssignmentRule.evaluate_ofCookie exchange .response cookie.isName.filled,
      AssignmentRule.cookieHeaderOf, found, Option.bind_some, value?_joined_append unmet after]
  · intro name filled
    rw [AssignmentRule.evaluate_ofCookie exchange .response filled, AssignmentRule.cookieHeaderOf,
      found, Option.bind_some, ← value?_joined_eq_none_iff]
    cases Cookie.value? (joined cookies) name <;> simp

/-- A cookie with a date of expiry, which holds a comma. -/
def sessionCookie : SetCookie where
  name := "sid"
  value := "a=b"
  attributes := ["Expires=Wed, 21 Oct 2015 07:28:00 GMT", "Path=/"]
  isName := by decide
  noSeparator := by decide
  trimmed := by decide

def themeCookie : SetCookie where
  name := "theme"
  value := "dark"
  attributes := ["HttpOnly"]
  isName := by decide
  noSeparator := by decide
  trimmed := by decide

def signedIn : Exchange where
  template := ⟨"GET", "http://host/", .none, none⟩
  request := ⟨"GET", "http://host/", ∅, none⟩
  response := ⟨200, Dict.ofList [("SET-Cookie", joined [sessionCookie, themeCookie])], ""⟩

/-- The cookie behind the date is found, and the name of a month is not. -/
theorem signedIn_theme_reached :
    (AssignmentRule.ofCookie "look" .response "theme").evaluate signedIn = .ok (.string "dark") ∧
      (AssignmentRule.ofCookie "look" .response "Oct").evaluate signedIn =
        .error (.notFound .cookie "Oct" .response) := by
  obtain ⟨found, notFound, -⟩ := joined_cookies_reachable
    (show sameIgnoringCase "SET-Cookie" "set-cookie" = true by decide)
    (show ∀ other ∈ signedIn.response.headers.keys,
      sameIgnoringCase other "set-cookie" = true → other = "SET-Cookie" by decide)
    (show signedIn.response.headers.get? "SET-Cookie" =
      some (joined [sessionCookie, themeCookie]) by decide) "look"
  exact ⟨found [sessionCookie] themeCookie [] rfl (by decide),
    (notFound "Oct" (by decide)).2 (by decide)⟩

end SetCookie

end RequestFlow
