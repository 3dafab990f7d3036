import Mathlib.Data.List.Chain
import RequestFlow.Proofs.Text.Cut
import RequestFlow.Template.Token

/-!
Contract: the segments of a text are its tokens and what stands between them.

Owns: what a token is, without a scan; the text that segments make up; and the proof that the
scan loses nothing, joins all literal text, and finds exactly the tokens of a text, wherever
an opening pair before them leads.

An opening brace right before a token is the exception: the scan takes the first two of three
braces for the opening pair.
-/

namespace RequestFlow

/-- The text that a segment stands for. -/
def Segment.source : Segment → String
  | .literal text => text
  | .token _ source => source

def Segment.isLiteral : Segment → Bool
  | .literal _ => true
  | .token .. => false

namespace Template

/-- The text that segments make up. -/
def textOf (segments : List Segment) : String := String.join (segments.map Segment.source)

/-- What stands between the braces of a token: the name, with blanks around it. -/
def Encloses (inner name : List Char) : Prop :=
  VariableName.isValidChars name ∧ ∃ left right : List Char,
    left.all Text.isBlank ∧ right.all Text.isBlank ∧ inner = left ++ name ++ right

/-- A text is a token with a name: the name between double braces, with blanks around it. -/
def IsToken (name source : String) : Prop :=
  ∃ inner, Encloses inner name.toList ∧ source.toList = openPair ++ inner ++ closePair

/-! ## The text of segments -/

section TextOf

@[simp] theorem toList_textOf_nil : (textOf []).toList = [] := rfl

@[simp] theorem toList_textOf_cons (part : Segment) (rest : List Segment) :
    (textOf (part :: rest)).toList = part.source.toList ++ (textOf rest).toList := by
  rw [textOf, List.map_cons, String.join_cons, String.toList_append, textOf]

@[simp] theorem toList_textOf_append (first second : List Segment) :
    (textOf (first ++ second)).toList = (textOf first).toList ++ (textOf second).toList := by
  induction first with
  | nil => rfl
  | cons part rest inductionHypothesis => simp [inductionHypothesis]

@[simp] theorem toList_textOf_literal (pending : List Char) :
    (textOf (literal pending)).toList = pending.reverse := by
  cases pending with
  | nil => rfl
  | cons char rest => simp [literal, Segment.source]

end TextOf

/-! ## What a token encloses -/

/-- The characters of names lie between the dollar sign and the last small letter. -/
theorem isNameChar_bounds {char : Char} (inName : VariableName.isNameChar char) :
    36 ≤ char.toNat ∧ char.toNat ≤ 122 := by
  simp only [VariableName.isNameChar, Text.isAlphanumeric, Text.isLetter, Text.isDigit,
    Bool.or_eq_true, Bool.and_eq_true, decide_eq_true_eq, beq_iff_eq, Char.le_def,
    UInt32.le_iff_toNat_le] at inName
  rcases inName with ((((letter | digit) | rfl) | rfl) | rfl) | rfl
  · rcases letter with ⟨low, high⟩ | ⟨low, high⟩
    · exact ⟨Nat.le_trans (by decide) low, high⟩
    · exact ⟨Nat.le_trans (by decide) low, Nat.le_trans high (by decide)⟩
  · exact ⟨Nat.le_trans (by decide) digit.1, Nat.le_trans digit.2 (by decide)⟩
  all_goals decide

/-- Blanks lie below the printable characters or behind the braces. -/
theorem isBlank_bounds {char : Char} (blank : Text.isBlank char) :
    char.toNat ≤ 32 ∨ 133 ≤ char.toNat := by
  simp only [Text.isBlank, Bool.or_eq_true, Bool.and_eq_true, decide_eq_true_eq,
    beq_iff_eq] at blank
  omega

namespace Encloses

variable {inner name : List Char} (encloses : Encloses inner name)

include encloses

theorem trim_eq : Text.trim inner = name := by
  obtain ⟨valid, left, right, leftBlank, rightBlank, rfl⟩ := encloses
  rw [Text.trim_append_blanks name leftBlank rightBlank]
  apply Text.trim_eq_self
  intro char member
  simp only [VariableName.isValidChars, Bool.and_eq_true, List.all_eq_true] at valid
  have bounds := isNameChar_bounds (valid.2 char member)
  rw [Bool.eq_false_iff]
  intro blank
  have blankBounds := isBlank_bounds blank
  omega

/-- No brace stands between the braces of a token. -/
theorem ne_brace {char : Char} (member : char ∈ inner) : char ≠ '\x7b' ∧ char ≠ '\x7d' := by
  have bounds : char.toNat ≤ 122 ∨ 133 ≤ char.toNat := by
    obtain ⟨valid, left, right, leftBlank, rightBlank, rfl⟩ := encloses
    simp only [VariableName.isValidChars, Bool.and_eq_true, List.all_eq_true] at valid
    rw [List.all_eq_true] at leftBlank rightBlank
    simp only [List.mem_append] at member
    rcases member with (inLeft | inName) | inRight
    · have := isBlank_bounds (leftBlank char inLeft)
      omega
    · have := isNameChar_bounds (valid.2 char inName)
      omega
    · have := isBlank_bounds (rightBlank char inRight)
      omega
  constructor
  · rintro rfl
    revert bounds
    decide
  · rintro rfl
    revert bounds
    decide

/-- What a token encloses and the closing pair behind it are found from behind the opening
pair. -/
theorem enclosed? (behind : List Char) :
    enclosed? (inner ++ closePair ++ behind) = some ⟨inner, behind⟩ := by
  have noClose : '\x7d' ∉ inner := fun member => (encloses.ne_brace member).2 rfl
  have valid : VariableName.isValidChars (Text.trim inner) := by
    rw [encloses.trim_eq]
    exact encloses.1
  rw [Template.enclosed?, closePair, Text.cutPair_of_notMem behind noClose]
  exact if_pos valid

end Encloses

/-- What is found behind an opening pair is what a token encloses, up to its closing pair. -/
theorem eq_append_of_enclosed? {text : List Char} {found : Enclosed}
    (isToken : enclosed? text = some found) :
    text = found.inner ++ closePair ++ found.rest ∧
      Encloses found.inner (Text.trim found.inner) := by
  unfold enclosed? at isToken
  split at isToken
  case h_2 => cases isToken
  case h_1 inner rest cutFound =>
    split at isToken
    case isFalse => cases isToken
    case isTrue valid =>
      cases isToken
      obtain ⟨left, right, leftBlank, rightBlank, split⟩ := Text.exists_blanks_around_trim inner
      exact ⟨Text.eq_append_of_cutPair cutFound, valid, left, right, leftBlank, rightBlank, split⟩

/-! ## The scan

Each proof follows the scan: the text ends, or an opening pair leads a token, or it is
rejected, or there is none. -/

theorem opens_iff {first second : Char} :
    (first == '\x7b' && second == '\x7b') = true ↔ first = '\x7b' ∧ second = '\x7b' := by
  rw [Bool.and_eq_true, beq_iff_eq, beq_iff_eq]

/-- The segments make up what is pending and the text. -/
theorem toList_textOf_scan (text pending : List Char) :
    (textOf (scan text pending)).toList = pending.reverse ++ text := by
  fun_induction scan text pending with
  | case1 pending => simp
  | case2 pending char => simp
  | case3 pending first second rest opens found isToken shorter inductionHypothesis =>
      obtain ⟨rfl, rfl⟩ := opens_iff.1 opens
      have split := (eq_append_of_enclosed? isToken).1
      simp [inductionHypothesis, Segment.source, openPair, split]
  | case4 pending first second rest opens isToken inductionHypothesis =>
      simpa using inductionHypothesis
  | case5 pending first second rest opens inductionHypothesis =>
      simpa using inductionHypothesis

theorem ne_empty_of_mem_literal {pending : List Char} {part : Segment}
    (member : part ∈ literal pending) : part ≠ .literal "" := by
  cases pending with
  | nil => cases member
  | cons char rest =>
      obtain rfl := List.mem_singleton.1 member
      intro empty
      have noChars := congrArg (fun part => part.source.toList) empty
      simp [Segment.source] at noChars

theorem ne_empty_of_mem_scan {text pending : List Char} {part : Segment}
    (member : part ∈ scan text pending) : part ≠ .literal "" := by
  fun_induction scan text pending with
  | case1 pending => exact ne_empty_of_mem_literal member
  | case2 pending char => exact ne_empty_of_mem_literal member
  | case3 pending first second rest opens found isToken shorter inductionHypothesis =>
      rw [List.mem_append, List.mem_cons] at member
      rcases member with before | rfl | later
      · exact ne_empty_of_mem_literal before
      · exact Segment.noConfusion
      · exact inductionHypothesis later
  | case4 pending first second rest opens isToken inductionHypothesis =>
      exact inductionHypothesis member
  | case5 pending first second rest opens inductionHypothesis =>
      exact inductionHypothesis member

/-- One of two segments is a token. -/
def Apart (first second : Segment) : Prop := first.isLiteral = false ∨ second.isLiteral = false

theorem isChain_literal_append {pending : List Char} {name source : String}
    {later : List Segment} (chain : later.IsChain Apart) :
    (literal pending ++ .token name source :: later).IsChain Apart := by
  have fromToken : (Segment.token name source :: later).IsChain Apart :=
    List.isChain_cons.2 ⟨fun _ _ => .inl rfl, chain⟩
  cases pending with
  | nil => exact fromToken
  | cons char rest =>
      refine List.isChain_cons.2 ⟨fun next isNext => ?_, fromToken⟩
      obtain rfl := Option.mem_some_iff.1 isNext
      exact .inr rfl

theorem isChain_literal (pending : List Char) : (literal pending).IsChain Apart := by
  cases pending with
  | nil => exact .nil
  | cons char rest => exact .singleton _

/-- No literal follows a literal. -/
theorem isChain_scan (text pending : List Char) : (scan text pending).IsChain Apart := by
  fun_induction scan text pending with
  | case1 pending => exact isChain_literal pending
  | case2 pending char => exact isChain_literal (char :: pending)
  | case3 pending first second rest opens found isToken shorter inductionHypothesis =>
      exact isChain_literal_append inductionHypothesis
  | case4 pending first second rest opens isToken inductionHypothesis => exact inductionHypothesis
  | case5 pending first second rest opens inductionHypothesis => exact inductionHypothesis

theorem not_token_of_mem_literal {pending : List Char} {name source : String} :
    .token name source ∉ literal pending := by
  cases pending <;> simp [literal]

/-- What the scan takes for a token is one. -/
theorem isToken_of_mem_scan {text pending : List Char} {name source : String}
    (member : .token name source ∈ scan text pending) : IsToken name source := by
  fun_induction scan text pending with
  | case1 pending => exact absurd member not_token_of_mem_literal
  | case2 pending char => exact absurd member not_token_of_mem_literal
  | case3 pending first second rest opens found isToken shorter inductionHypothesis =>
      rw [List.mem_append, List.mem_cons] at member
      rcases member with before | here | later
      · exact absurd before not_token_of_mem_literal
      · obtain ⟨rfl, rfl⟩ := Segment.token.inj here
        refine ⟨found.inner, ?_, String.toList_ofList⟩
        rw [String.toList_ofList]
        exact (eq_append_of_enclosed? isToken).2
      · exact inductionHypothesis later
  | case4 pending first second rest opens isToken inductionHypothesis =>
      exact inductionHypothesis member
  | case5 pending first second rest opens inductionHypothesis =>
      exact inductionHypothesis member

/-! ## Every token is found

An opening pair before a token leads a token of its own, which closes before, or it is
rejected, because what it would enclose up to the first closing pair holds a brace. Either
way the scan goes on no later than where the token begins. -/

theorem getLast?_of_append {front back : List Char} {last : Char}
    (other : (front ++ back).getLast? ≠ some last) : back.getLast? ≠ some last := by
  intro ends
  apply other
  rw [List.getLast?_append, ends, Option.some_or]

/-- A part without a mark that a text begins with ends before the mark does. -/
theorem exists_before_mark {front back before after : List Char} {mark : Char}
    (absent : mark ∉ front) (same : before ++ mark :: after = front ++ back) :
    ∃ between, before = front ++ between ∧ between ++ mark :: after = back := by
  rcases List.append_eq_append_iff.1 same with ⟨more, rfl, rest⟩ | ⟨between, rfl, rest⟩
  · cases more with
    | nil => exact ⟨[], by simp, rest⟩
    | cons char more =>
        obtain ⟨rfl, -⟩ := List.cons.inj rest
        exact absurd (by simp) absent
  · exact ⟨between, rfl, rest.symm⟩

/-- A pair that a text begins with is the one that a later part begins with, or it lies
before that part. -/
theorem pair_here_or_before {before tail rest : List Char} {char : Char}
    (apart : before.getLast? ≠ some char)
    (whole : before ++ char :: char :: tail = char :: char :: rest) :
    (before = [] ∧ tail = rest) ∨ ∃ shorter, before = [char, char] ++ shorter ∧
      shorter ++ char :: char :: tail = rest := by
  match before, apart, whole with
  | [], _, whole =>
      cases whole
      exact .inl ⟨rfl, rfl⟩
  | [last], apart, whole =>
      cases whole
      exact absurd rfl apart
  | one :: two :: shorter, _, whole =>
      cases whole
      exact .inr ⟨shorter, rfl, rfl⟩

/-- What is enclosed behind an earlier pair ends before a later pair. -/
theorem closes_before_pair {before tail text : List Char} {found : Enclosed}
    (isEnclosed : enclosed? text = some found) (apart : before.getLast? ≠ some '\x7b')
    (whole : before ++ '\x7b' :: '\x7b' :: tail = text) :
    ∃ between, before = found.inner ++ closePair ++ between ∧
      between.getLast? ≠ some '\x7b' ∧ between ++ '\x7b' :: '\x7b' :: tail = found.rest := by
  obtain ⟨split, inside⟩ := eq_append_of_enclosed? isEnclosed
  have noOpen : '\x7b' ∉ found.inner ++ closePair := by
    rw [List.mem_append, not_or]
    exact ⟨fun member => (inside.ne_brace member).1 rfl, by decide⟩
  obtain ⟨between, rfl, later⟩ := exists_before_mark noOpen (whole.trans split)
  exact ⟨between, rfl, getLast?_of_append apart, later⟩

theorem exists_scan_token {before inner name : List Char} (encloses : Encloses inner name)
    (apart : before.getLast? ≠ some '\x7b') (behind pending : List Char) :
    ∃ first rest,
      scan (before ++ '\x7b' :: '\x7b' :: (inner ++ closePair ++ behind)) pending =
        first ++ .token (String.ofList name) (String.ofList (openPair ++ inner ++ closePair)) ::
          rest ∧
      (textOf first).toList = pending.reverse ++ before := by
  generalize whole : before ++ '\x7b' :: '\x7b' :: (inner ++ closePair ++ behind) = text
  fun_induction scan text pending generalizing before with
  | case1 pending => simp at whole
  | case2 pending char =>
      have lengths := congrArg List.length whole
      simp only [List.length_append, List.length_cons, List.length_nil] at lengths
      omega
  | case3 pending first second rest opens found isToken shorter inductionHypothesis =>
      obtain ⟨rfl, rfl⟩ := opens_iff.1 opens
      rcases pair_here_or_before apart whole with ⟨rfl, rfl⟩ | ⟨shorter, rfl, behindPair⟩
      · obtain rfl := Option.some.inj ((encloses.enclosed? behind).symm.trans isToken)
        rw [encloses.trim_eq]
        exact ⟨literal pending, _, rfl, by simp⟩
      · obtain ⟨between, rfl, betweenApart, later⟩ :=
          closes_before_pair isToken (getLast?_of_append apart) behindPair
        obtain ⟨first, rest, scanned, made⟩ := inductionHypothesis betweenApart later
        let earlier : Segment := .token (String.ofList (Text.trim found.inner))
          (String.ofList (openPair ++ found.inner ++ closePair))
        refine ⟨literal pending ++ earlier :: first, rest, ?_, ?_⟩
        · simp [scanned, earlier]
        · simp [made, earlier, Segment.source, openPair]
  | case4 pending first second rest opens isToken inductionHypothesis =>
      obtain ⟨rfl, rfl⟩ := opens_iff.1 opens
      rcases pair_here_or_before apart whole with ⟨rfl, rfl⟩ | ⟨shorter, rfl, behindPair⟩
      · cases (encloses.enclosed? behind).symm.trans isToken
      · obtain ⟨first, rest, scanned, made⟩ :=
          inductionHypothesis (getLast?_of_append apart) behindPair
        exact ⟨first, rest, scanned, by simpa using made⟩
  | case5 pending first second rest opens inductionHypothesis =>
      cases before with
      | nil =>
          cases whole
          exact absurd rfl opens
      | cons one shorter =>
          obtain ⟨rfl, behindOne⟩ := List.cons.inj whole
          have shorterApart : shorter.getLast? ≠ some '\x7b' :=
            getLast?_of_append (show ([one] ++ shorter).getLast? ≠ _ from apart)
          obtain ⟨first, rest, scanned, made⟩ := inductionHypothesis shorterApart behindOne
          exact ⟨first, rest, scanned, by simpa using made⟩

/-! ## The segments of a text -/

theorem textOf_parse (text : String) : textOf (parse text) = text := by
  rw [← String.toList_inj, parse, toList_textOf_scan]
  rfl

theorem isToken_of_mem_parse {text name source : String}
    (member : .token name source ∈ parse text) : IsToken name source :=
  isToken_of_mem_scan member

/-- No segment is the empty text. -/
theorem source_ne_empty_of_mem_parse {text : String} {part : Segment}
    (member : part ∈ parse text) : part.source ≠ "" := by
  intro silent
  cases part with
  | literal literalText => exact ne_empty_of_mem_scan member (congrArg Segment.literal silent)
  | token name source =>
      obtain ⟨inner, -, written⟩ := isToken_of_mem_parse member
      rw [show source = "" from silent] at written
      cases written

/-- A token behind anything but an opening brace is found where it stands. -/
theorem exists_parse_token {before name source : String} (after : String)
    (isToken : IsToken name source) (apart : before.toList.getLast? ≠ some '\x7b') :
    ∃ first rest, parse (before ++ source ++ after) = first ++ .token name source :: rest ∧
      textOf first = before := by
  obtain ⟨inner, encloses, written⟩ := isToken
  have whole : (before ++ source ++ after).toList = before.toList ++
      '\x7b' :: '\x7b' :: (inner ++ closePair ++ after.toList) := by
    simp [written, openPair]
  obtain ⟨first, rest, scanned, made⟩ := exists_scan_token encloses apart after.toList []
  rw [String.ofList_toList, ← written, String.ofList_toList, ← whole] at scanned
  exact ⟨first, rest, scanned, String.toList_inj.1 made⟩

/-- Segments that are not empty make up the empty text only if there are none. -/
theorem eq_nil_of_textOf_eq_empty {segments : List Segment} (silent : textOf segments = "")
    (each : ∀ part ∈ segments, part.source ≠ "") : segments = [] := by
  cases segments with
  | nil => rfl
  | cons part rest =>
      have chars := congrArg String.toList silent
      rw [toList_textOf_cons, String.toList_empty, List.append_eq_nil_iff] at chars
      exact absurd (String.toList_inj.1 chars.1) (each part List.mem_cons_self)

/-- A token is its only segment. -/
theorem parse_of_isToken {name text : String} (isToken : IsToken name text) :
    parse text = [.token name text] := by
  have parsed : ∃ first rest, parse ("" ++ text ++ "") = first ++ .token name text :: rest ∧
      textOf first = "" := exists_parse_token "" isToken (by decide)
  rw [String.empty_append, String.append_empty] at parsed
  obtain ⟨first, rest, parsed, before⟩ := parsed
  have nonempty : ∀ part ∈ first ++ .token name text :: rest, part.source ≠ "" := by
    rw [← parsed]
    intro part
    exact source_ne_empty_of_mem_parse
  obtain rfl := eq_nil_of_textOf_eq_empty before fun part member =>
    nonempty part (List.mem_append_left _ member)
  have whole := congrArg String.toList (textOf_parse text)
  rw [parsed, List.nil_append, toList_textOf_cons, Segment.source,
    List.append_right_eq_self] at whole
  obtain rfl := eq_nil_of_textOf_eq_empty (String.toList_inj.1 whole) fun part member =>
    nonempty part (List.mem_cons_of_mem _ member)
  exact parsed

theorem single?_eq_some_iff {segments : List Segment} {name : String} :
    single? segments = some name ↔ ∃ source, segments = [.token name source] := by
  constructor
  · intro single
    unfold single? at single
    split at single
    · cases single
      exact ⟨_, rfl⟩
    · cases single
  · rintro ⟨source, rfl⟩
    rfl

theorem single?_parse_iff {text name : String} :
    single? (parse text) = some name ↔ IsToken name text := by
  rw [single?_eq_some_iff]
  constructor
  · rintro ⟨source, only⟩
    have whole : source = text := by
      rw [← textOf_parse text, only, ← String.toList_inj]
      simp [Segment.source]
    rw [← whole]
    apply isToken_of_mem_parse
    rw [only]
    exact List.mem_singleton.2 rfl
  · intro isToken
    exact ⟨text, parse_of_isToken isToken⟩

/-- The only name in a text that is one token. -/
theorem tokens_of_isToken {text name : String} (isToken : IsToken name text) :
    tokens (parse text) = [name] := by
  rw [parse_of_isToken isToken]
  rfl

/-- A text is split into its tokens and the literals between them. Nothing is lost, no literal
is empty, and no two literals follow one another. What is taken for a token is one, and every
token behind anything but an opening brace is found, where it stands. So a text is a single
token exactly if it is one token and nothing else. -/
theorem parse_recognizes_tokens (text : String) :
    textOf (parse text) = text ∧
      (∀ part ∈ parse text, part ≠ .literal "") ∧
      (parse text).IsChain (fun first second =>
        first.isLiteral = false ∨ second.isLiteral = false) ∧
      (∀ name source, .token name source ∈ parse text → IsToken name source) ∧
      (∀ before name source after, text = before ++ source ++ after → IsToken name source →
        before.toList.getLast? ≠ some '\x7b' →
          ∃ first rest, parse text = first ++ .token name source :: rest ∧
            textOf first = before) ∧
      ∀ name, single? (parse text) = some name ↔ IsToken name text := by
  refine ⟨textOf_parse text, fun part => ne_empty_of_mem_scan, isChain_scan text.toList [],
    fun name source => isToken_of_mem_parse, ?_, fun name => single?_parse_iff⟩
  rintro before name source after rfl isToken apart
  exact exists_parse_token after isToken apart

/-- A token between two texts, behind an opening pair that leads nowhere. -/
theorem parse_openedBearer :
    ∃ first rest, parse "\x7b\x7bBearer \x7b\x7b token \x7d\x7d!" =
        first ++ .token "token" "\x7b\x7b token \x7d\x7d" :: rest ∧
      textOf first = "\x7b\x7bBearer " := by
  obtain ⟨-, -, -, -, complete, -⟩ :=
    parse_recognizes_tokens "\x7b\x7bBearer \x7b\x7b token \x7d\x7d!"
  exact complete "\x7b\x7bBearer " "token" "\x7b\x7b token \x7d\x7d" "!" (by decide)
    ⟨[' ', 't', 'o', 'k', 'e', 'n', ' '], ⟨by decide, [' '], [' '], by decide⟩, by decide⟩
    (by decide)

end Template

end RequestFlow
