import RequestFlow.Proofs.Dict
import RequestFlow.Proofs.Template.Segmentation
import RequestFlow.Request.Placeholder

/-!
Contract: the walk over the braces of a URL template.

Owns: the texts behind which braces are read anew; the equations of the walk; the parts of a
text that it copies, and what it fills in; and the tokens of a text, which it copies unless a
key has an opening brace.

Does not own: which placeholders should be filled in.
-/

namespace RequestFlow

namespace Placeholder

open Template (openPair closePair)

variable {parameters : Dict Json}

/-! ## Texts that leave no brace open -/

/-- A text that is made of characters other than opening braces, of texts from an opening pair
to the next closing pair, and of texts from a single opening brace to the next closing one. -/
inductive Settled : List Char → Prop
  | nil : Settled []
  | char {char : Char} {rest : List Char} (plain : char ≠ '\x7b') (settled : Settled rest) :
      Settled (char :: rest)
  | pair {rest inner behind : List Char}
      (closed : Text.cutPair '\x7d' '\x7d' rest = some (inner, behind))
      (settled : Settled behind) : Settled ('\x7b' :: '\x7b' :: rest)
  | single {rest name behind : List Char} (apart : rest.head? ≠ some '\x7b')
      (closed : Text.cut '\x7d' rest = some (name, behind)) (settled : Settled behind) :
      Settled ('\x7b' :: rest)

theorem head?_append_ne {front back : List Char} {char : Char} (nonempty : front ≠ [])
    (apart : front.head? ≠ some char) : (front ++ back).head? ≠ some char := by
  cases front with
  | nil => exact absurd rfl nonempty
  | cons first rest => exact apart

theorem ne_nil_of_cut {text before after : List Char} {mark : Char}
    (found : Text.cut mark text = some (before, after)) : text ≠ [] := by
  rintro rfl
  cases found

theorem Settled.append {front back : List Char} (settled : Settled front)
    (behind : Settled back) : Settled (front ++ back) := by
  induction settled with
  | nil => exact behind
  | char plain _ inductionHypothesis => exact .char plain inductionHypothesis
  | pair closed _ inductionHypothesis =>
      exact .pair (Text.cutPair_append closed back) inductionHypothesis
  | single apart closed _ inductionHypothesis =>
      exact .single (head?_append_ne (ne_nil_of_cut closed) apart)
        (Text.cut_append closed back) inductionHypothesis

theorem settled_char_iff {char : Char} (plain : char ≠ '\x7b') {rest : List Char} :
    Settled (char :: rest) ↔ Settled rest := by
  constructor
  · intro settled
    cases settled with
    | char _ rest => exact rest
    | pair _ _ => exact absurd rfl plain
    | single _ _ _ => exact absurd rfl plain
  · exact .char plain

theorem settled_pair_iff {rest : List Char} :
    Settled ('\x7b' :: '\x7b' :: rest) ↔ ∃ inner behind,
      Text.cutPair '\x7d' '\x7d' rest = some (inner, behind) ∧ Settled behind := by
  constructor
  · intro settled
    cases settled with
    | char plain _ => exact absurd rfl plain
    | pair closed behind => exact ⟨_, _, closed, behind⟩
    | single apart _ _ => exact absurd rfl apart
  · rintro ⟨inner, behind, closed, settled⟩
    exact .pair closed settled

theorem settled_single_iff {rest : List Char} (apart : rest.head? ≠ some '\x7b') :
    Settled ('\x7b' :: rest) ↔ ∃ name behind,
      Text.cut '\x7d' rest = some (name, behind) ∧ Settled behind := by
  constructor
  · intro settled
    cases settled with
    | char plain _ => exact absurd rfl plain
    | pair _ _ => exact absurd rfl apart
    | single _ closed behind => exact ⟨_, _, closed, behind⟩
  · rintro ⟨name, behind, closed, settled⟩
    exact .single apart closed settled

theorem getLast?_append_cons_ne (front : List Char) {back : List Char} {mark other : Char}
    (apart : mark ≠ other) (later : back.getLast? ≠ some other) :
    (front ++ mark :: back).getLast? ≠ some other := by
  rw [List.getLast?_append, List.getLast?_cons, Option.some_or]
  cases last : back.getLast? with
  | none =>
      rw [Option.getD_none, ne_eq, Option.some.injEq]
      exact apart
  | some char => rwa [Option.getD_some, ← last]

/-- A settled text does not end with an opening brace. -/
theorem Settled.getLast?_ne {text : List Char} (settled : Settled text) :
    text.getLast? ≠ some '\x7b' := by
  induction settled with
  | nil => exact fun same => by cases same
  | char plain _ inductionHypothesis =>
      exact getLast?_append_cons_ne [] plain inductionHypothesis
  | @pair rest inner behind closed _ inductionHypothesis =>
      rw [Text.eq_append_of_cutPair closed, List.append_assoc]
      exact getLast?_append_cons_ne ('\x7b' :: '\x7b' :: inner) (by decide)
        (getLast?_append_cons_ne [] (by decide) inductionHypothesis)
  | @single rest name behind apart closed _ inductionHypothesis =>
      rw [(Text.eq_append_of_cut closed).1]
      exact getLast?_append_cons_ne ('\x7b' :: name) (by decide) inductionHypothesis

/-- Behind a settled text the braces are read anew. -/
theorem Settled.of_append {front back : List Char} (settled : Settled front)
    (whole : Settled (front ++ back)) : Settled back := by
  induction settled with
  | nil => exact whole
  | char plain _ inductionHypothesis =>
      rw [List.cons_append, settled_char_iff plain] at whole
      exact inductionHypothesis whole
  | pair closed _ inductionHypothesis =>
      rw [List.cons_append, List.cons_append, settled_pair_iff,
        Text.cutPair_append closed] at whole
      obtain ⟨_, _, ⟨⟩, behind⟩ := whole
      exact inductionHypothesis behind
  | single apart closed _ inductionHypothesis =>
      rw [List.cons_append, settled_single_iff (head?_append_ne (ne_nil_of_cut closed) apart),
        Text.cut_append closed] at whole
      obtain ⟨_, _, ⟨⟩, behind⟩ := whole
      exact inductionHypothesis behind

/-! ## The walk -/

/-- What a text starts with, as far as the walk asks. -/
inductive Start : List Char → Prop
  | nil : Start []
  | char {char : Char} {rest : List Char} (plain : char ≠ '\x7b') : Start (char :: rest)
  | pair {rest inner behind : List Char}
      (closed : Text.cutPair '\x7d' '\x7d' rest = some (inner, behind)) :
      Start ('\x7b' :: '\x7b' :: rest)
  | openPair {rest : List Char} (isOpen : Text.cutPair '\x7d' '\x7d' rest = none) :
      Start ('\x7b' :: '\x7b' :: rest)
  | single {rest name behind : List Char} (apart : rest.head? ≠ some '\x7b')
      (closed : Text.cut '\x7d' rest = some (name, behind)) : Start ('\x7b' :: rest)
  | openSingle {rest : List Char} (apart : rest.head? ≠ some '\x7b')
      (isOpen : Text.cut '\x7d' rest = none) : Start ('\x7b' :: rest)

theorem start : (text : List Char) → Start text
  | [] => .nil
  | char :: rest => by
      by_cases plain : char = '\x7b'
      case neg => exact .char plain
      case pos =>
        subst plain
        by_cases apart : rest.head? = some '\x7b'
        case pos =>
          obtain ⟨more, rfl⟩ := List.head?_eq_some_iff.1 apart
          cases closed : Text.cutPair '\x7d' '\x7d' more with
          | none => exact .openPair closed
          | some sides => exact .pair closed
        case neg =>
          cases closed : Text.cut '\x7d' rest with
          | none => exact .openSingle apart closed
          | some sides => exact .single apart closed

@[simp] theorem fillChars_nil : fillChars parameters [] = [] := by
  rw [fillChars]

theorem fillChars_char {char : Char} (plain : char ≠ '\x7b') (rest : List Char) :
    fillChars parameters (char :: rest) = char :: fillChars parameters rest := by
  rw [fillChars]
  · intro _ same
    exact absurd same plain
  · intro same
    exact absurd same plain

theorem fillChars_pair {rest inner behind : List Char}
    (closed : Text.cutPair '\x7d' '\x7d' rest = some (inner, behind)) :
    fillChars parameters ('\x7b' :: '\x7b' :: rest) =
      openPair ++ inner ++ closePair ++ fillChars parameters behind := by
  rw [fillChars]
  split
  · next found =>
    rw [closed] at found
    cases found
    rfl
  · next found =>
    rw [closed] at found
    cases found

theorem fillChars_open {rest : List Char} (isOpen : Text.cutPair '\x7d' '\x7d' rest = none) :
    fillChars parameters ('\x7b' :: '\x7b' :: rest) = '\x7b' :: '\x7b' :: rest := by
  rw [fillChars]
  split
  · next found =>
    rw [isOpen] at found
    cases found
  · rfl

theorem fillChars_single {rest name behind : List Char} (apart : rest.head? ≠ some '\x7b')
    (closed : Text.cut '\x7d' rest = some (name, behind)) :
    fillChars parameters ('\x7b' :: rest) =
      value parameters name ++ fillChars parameters behind := by
  rw [fillChars]
  · split
    · next found =>
      rw [closed] at found
      cases found
      rfl
    · next found =>
      rw [closed] at found
      cases found
  · rintro more rfl
    exact absurd rfl apart

theorem fillChars_unclosed {rest : List Char} (apart : rest.head? ≠ some '\x7b')
    (isOpen : Text.cut '\x7d' rest = none) :
    fillChars parameters ('\x7b' :: rest) = '\x7b' :: rest := by
  rw [fillChars]
  · split
    · next found =>
      rw [isOpen] at found
      cases found
    · rfl
  · rintro more rfl
    exact absurd rfl apart

/-- Behind a settled text the walk begins anew. -/
theorem fillChars_append {front : List Char} (settled : Settled front) (back : List Char) :
    fillChars parameters (front ++ back) =
      fillChars parameters front ++ fillChars parameters back := by
  induction settled with
  | nil =>
      rw [fillChars_nil]
      rfl
  | char plain _ inductionHypothesis =>
      rw [List.cons_append, fillChars_char plain, fillChars_char plain, inductionHypothesis]
      rfl
  | pair closed _ inductionHypothesis =>
      rw [List.cons_append, List.cons_append, fillChars_pair (Text.cutPair_append closed back),
        fillChars_pair closed, inductionHypothesis]
      simp only [List.append_assoc]
  | single apart closed _ inductionHypothesis =>
      rw [List.cons_append, fillChars_single (head?_append_ne (ne_nil_of_cut closed) apart)
        (Text.cut_append closed back), fillChars_single apart closed, inductionHypothesis,
        List.append_assoc]

/-! ## What is filled in -/

/-- A name in braces that is read as a placeholder and has a value: no brace is open before it,
it reaches up to the next closing brace, and it is a key. -/
structure Filled (keys : List String) (before name : List Char) : Prop where
  settled : Settled before
  apart : name.head? ≠ some '\x7b'
  closes : '\x7d' ∉ name
  isKey : String.ofList name ∈ keys

/-- A part of a text that is copied as a whole: nothing within it is settled, and it does not
start with a placeholder that has a value. -/
structure Copied (keys : List String) (block rest : List Char) : Prop where
  nonempty : block ≠ []
  solid : ∀ front back, block = front ++ back → front ≠ [] → back ≠ [] → ¬ Settled front
  unfilled : ∀ name after, block ++ rest = source name ++ after → ¬ Filled keys [] name
  ends : Settled block ∨ rest = []

theorem source_append (name after : List Char) :
    source name ++ after = '\x7b' :: (name ++ '\x7d' :: after) := by
  simp [source]

theorem cut_source {name : List Char} (closes : '\x7d' ∉ name) (after : List Char) :
    Text.cut '\x7d' (name ++ '\x7d' :: after) = some (name, after) :=
  Text.cut_of_notMem after closes

theorem head?_source {name : List Char} (apart : name.head? ≠ some '\x7b') (after : List Char) :
    (name ++ '\x7d' :: after).head? ≠ some '\x7b' := by
  cases name with
  | nil => exact fun same => by cases same
  | cons char rest => exact apart

theorem settled_source {name : List Char} (apart : name.head? ≠ some '\x7b')
    (closes : '\x7d' ∉ name) : Settled (source name) := by
  have whole := source_append name []
  rw [List.append_nil] at whole
  rw [whole]
  exact .single (head?_source apart []) (cut_source closes []) .nil

theorem settled_token {inner : List Char} (noClose : '\x7d' ∉ inner) :
    Settled (openPair ++ inner ++ closePair) := by
  have closed : Text.cutPair '\x7d' '\x7d' (inner ++ closePair ++ []) = some (inner, []) :=
    Text.cutPair_of_notMem [] noClose
  rw [List.append_nil] at closed
  exact .pair closed .nil

theorem value_of_get? {name : List Char} {found : Json}
    (held : parameters.get? (String.ofList name) = some found) :
    value parameters name = (Percent.component found.plainText).toList := by
  rw [value, held]

theorem value_of_mem {name : List Char} (isKey : String.ofList name ∈ parameters.keys) :
    ∃ found, parameters.get? (String.ofList name) = some found ∧
      value parameters name = (Percent.component found.plainText).toList := by
  obtain ⟨found, held⟩ := Option.isSome_iff_exists.1 (Dict.mem_keys_iff.1 isKey)
  exact ⟨found, held, value_of_get? held⟩

theorem value_of_notMem {name : List Char} (noKey : String.ofList name ∉ parameters.keys) :
    value parameters name = source name := by
  rw [Dict.mem_keys_iff, Option.not_isSome_iff_eq_none] at noKey
  rw [value, noKey]

/-- No strict start of a text behind an opening pair is settled, if no pair closes before the
end of the text. -/
theorem not_settled_pair {body front back : List Char}
    (closesLast : ∀ inner behind, Text.cutPair '\x7d' '\x7d' body = some (inner, behind) →
      behind = [])
    (split : '\x7b' :: '\x7b' :: body = front ++ back) (nonempty : front ≠ [])
    (strict : back ≠ []) : ¬ Settled front := by
  intro settled
  match front, nonempty, split with
  | [_], _, split =>
      cases split
      obtain ⟨_, _, ⟨⟩, _⟩ := (settled_single_iff (by decide)).1 settled
  | _ :: _ :: shorter, _, split =>
      cases split
      obtain ⟨inner, behind, closed, _⟩ := settled_pair_iff.1 settled
      have later := closesLast _ _ (Text.cutPair_append closed back)
      exact strict (List.append_eq_nil_iff.1 later).2

theorem not_settled_single {body front back : List Char} (apart : body.head? ≠ some '\x7b')
    (closesLast : ∀ name behind, Text.cut '\x7d' body = some (name, behind) → behind = [])
    (split : '\x7b' :: body = front ++ back) (nonempty : front ≠ [])
    (strict : back ≠ []) : ¬ Settled front := by
  intro settled
  match front, nonempty, split with
  | _ :: shorter, _, split =>
      cases split
      have apartHere : shorter.head? ≠ some '\x7b' := by
        cases shorter with
        | nil => exact fun same => by cases same
        | cons char more => exact apart
      obtain ⟨name, behind, closed, _⟩ := (settled_single_iff apartHere).1 settled
      have later := closesLast _ _ (Text.cut_append closed back)
      exact strict (List.append_eq_nil_iff.1 later).2

section Blocks

variable {keys : List String} {rest inner name behind : List Char}

theorem copied_char {char : Char} (plain : char ≠ '\x7b') : Copied keys [char] rest where
  nonempty := List.cons_ne_nil _ _
  solid front back split notFirst notLast := by
    rcases List.append_eq_singleton_iff.1 split.symm with ⟨none, -⟩ | ⟨-, none⟩
    · exact absurd none notFirst
    · exact absurd none notLast
  unfilled name after split _ := by
    rw [source_append] at split
    exact plain (List.cons.inj split).1
  ends := .inl (.char plain .nil)

/-- A text behind an opening pair does not start with a placeholder. -/
theorem unfilled_of_pair {after : List Char}
    (split : '\x7b' :: '\x7b' :: rest = source name ++ after) : ¬ Filled keys [] name := by
  intro filled
  rw [source_append] at split
  have head := head?_source filled.apart after
  rw [← (List.cons.inj split).2] at head
  exact head rfl

theorem copied_pair (closed : Text.cutPair '\x7d' '\x7d' rest = some (inner, behind)) :
    Copied keys (openPair ++ inner ++ closePair) behind where
  nonempty := List.cons_ne_nil _ _
  solid _ _ split nonempty strict := by
    refine not_settled_pair (fun other more found => ?_) split nonempty strict
    have sides := (Text.cutPair_upTo closed).symm.trans found
    cases sides
    rfl
  unfilled _ _ split := unfilled_of_pair split
  ends := .inl (.pair (Text.cutPair_upTo closed) .nil)

theorem copied_open (isOpen : Text.cutPair '\x7d' '\x7d' rest = none) :
    Copied keys ('\x7b' :: '\x7b' :: rest) [] where
  nonempty := List.cons_ne_nil _ _
  solid _ _ split nonempty strict := by
    refine not_settled_pair (fun other more found => ?_) split nonempty strict
    rw [isOpen] at found
    cases found
  unfilled _ _ split := by
    rw [List.append_nil] at split
    exact unfilled_of_pair split
  ends := .inr rfl

theorem copied_single (apart : name.head? ≠ some '\x7b') (closes : '\x7d' ∉ name)
    (noKey : String.ofList name ∉ keys) : Copied keys (source name) behind where
  nonempty := List.cons_ne_nil _ _
  solid _ _ split nonempty strict := by
    refine not_settled_single (head?_source apart []) (fun other more found => ?_) split
      nonempty strict
    rw [cut_source closes] at found
    cases found
    rfl
  unfilled other after split filled := by
    rw [source_append, source_append] at split
    have sameCut := cut_source closes behind
    rw [(List.cons.inj split).2, cut_source filled.closes] at sameCut
    cases sameCut
    exact noKey filled.isKey
  ends := .inl (settled_source apart closes)

theorem copied_unclosed (apart : rest.head? ≠ some '\x7b')
    (isOpen : Text.cut '\x7d' rest = none) : Copied keys ('\x7b' :: rest) [] where
  nonempty := List.cons_ne_nil _ _
  solid _ _ split nonempty strict := by
    refine not_settled_single apart (fun other more found => ?_) split nonempty strict
    rw [isOpen] at found
    cases found
  unfilled other after split _ := by
    rw [List.append_nil, source_append] at split
    rw [Text.cut_eq_none_iff, (List.cons.inj split).2] at isOpen
    exact isOpen (List.mem_append_right _ List.mem_cons_self)
  ends := .inr rfl

end Blocks

/-- The walk copies a part of the text or fills in a placeholder, and goes on behind it. -/
theorem fillChars_cases (parameters : Dict Json) {text : List Char} (nonempty : text ≠ []) :
    (∃ block rest, text = block ++ rest ∧ Copied parameters.keys block rest ∧
      fillChars parameters text = block ++ fillChars parameters rest) ∨
    ∃ name rest, text = source name ++ rest ∧ Filled parameters.keys [] name ∧
      fillChars parameters text = value parameters name ++ fillChars parameters rest := by
  cases start text with
  | nil => exact absurd rfl nonempty
  | @char char rest plain =>
      exact .inl ⟨[char], rest, rfl, copied_char plain, fillChars_char plain rest⟩
  | @pair rest inner behind closed =>
      refine .inl ⟨_, behind, ?_, copied_pair closed, fillChars_pair closed⟩
      rw [Text.eq_append_of_cutPair closed]
      simp [openPair, closePair]
  | openPair isOpen =>
      refine .inl ⟨_, [], (List.append_nil _).symm, copied_open isOpen, ?_⟩
      rw [fillChars_open isOpen, fillChars_nil, List.append_nil]
  | @single rest name behind apart closed =>
      obtain ⟨rfl, closes⟩ := Text.eq_append_of_cut closed
      have written : '\x7b' :: (name ++ '\x7d' :: behind) = source name ++ behind :=
        (source_append name behind).symm
      have nameApart : name.head? ≠ some '\x7b' := by
        cases name with
        | nil => exact fun same => by cases same
        | cons first more => exact apart
      by_cases isKey : String.ofList name ∈ parameters.keys
      case pos =>
        exact .inr ⟨name, behind, written, ⟨.nil, nameApart, closes, isKey⟩,
          fillChars_single apart closed⟩
      case neg =>
        refine .inl ⟨_, behind, written, copied_single nameApart closes isKey, ?_⟩
        rw [fillChars_single apart closed, value_of_notMem isKey]
  | openSingle apart isOpen =>
      refine .inl ⟨_, [], (List.append_nil _).symm, copied_unclosed apart isOpen, ?_⟩
      rw [fillChars_unclosed apart isOpen, fillChars_nil, List.append_nil]

/-! ## One placeholder among others -/

theorem fillChars_source {name : List Char} (apart : name.head? ≠ some '\x7b')
    (closes : '\x7d' ∉ name) (after : List Char) :
    fillChars parameters (source name ++ after) =
      value parameters name ++ fillChars parameters after := by
  rw [source_append]
  exact fillChars_single (head?_source apart after) (cut_source closes after)

/-- A text without opening braces is settled. -/
theorem settled_of_notMem {text : List Char} (noOpen : '\x7b' ∉ text) : Settled text := by
  induction text with
  | nil => exact .nil
  | cons char rest inductionHypothesis =>
      rw [List.mem_cons, not_or] at noOpen
      exact .char (Ne.symm noOpen.1) (inductionHypothesis noOpen.2)

/-- A slash at the end of a settled text is copied. -/
theorem getLast?_fillChars {text : List Char} (settled : Settled text)
    (ends : text.getLast? = some '/') : (fillChars parameters text).getLast? = some '/' := by
  have behindMark {front back : List Char} {mark : Char} (apart : mark ≠ '/')
      (ends : (front ++ mark :: back).getLast? = some '/') : back.getLast? = some '/' := by
    by_contra other
    exact getLast?_append_cons_ne front apart other ends
  have behindMade {made back : List Char} (ends : back.getLast? = some '/') :
      (made ++ back).getLast? = some '/' := by
    rw [List.getLast?_append, ends, Option.some_or]
  induction settled with
  | nil => cases ends
  | @char char rest plain _ inductionHypothesis =>
      rw [fillChars_char plain]
      by_cases isSlash : char = '/' ∧ rest = []
      case pos =>
        rw [isSlash.1, isSlash.2, fillChars_nil]
        rfl
      case neg =>
        have later : rest.getLast? = some '/' := by
          rw [List.getLast?_cons, Option.some.injEq] at ends
          cases last : rest.getLast? with
          | none =>
              rw [last] at ends
              exact absurd ⟨ends, List.getLast?_eq_none_iff.1 last⟩ isSlash
          | some char =>
              rw [last] at ends
              exact congrArg some ends
        rw [← List.singleton_append]
        exact behindMade (inductionHypothesis later)
  | @pair rest inner behind closed _ inductionHypothesis =>
      have split : '\x7b' :: '\x7b' :: rest =
          ('\x7b' :: '\x7b' :: inner ++ ['\x7d']) ++ '\x7d' :: behind := by
        rw [Text.eq_append_of_cutPair closed]
        simp
      rw [split] at ends
      have later : behind.getLast? = some '/' := behindMark (by decide) ends
      rw [fillChars_pair closed]
      exact behindMade (inductionHypothesis later)
  | @single rest name behind apart closed _ inductionHypothesis =>
      rw [(Text.eq_append_of_cut closed).1, ← List.cons_append] at ends
      rw [fillChars_single apart closed]
      exact behindMade (inductionHypothesis (behindMark (by decide) ends))

/-- A parameter that no placeholder asks for does not matter. -/
theorem fillChars_insert (name : List Char) (found : Json) (text : List Char) :
    ¬ source name <:+: text →
    fillChars (parameters.insert (String.ofList name) found) text = fillChars parameters text := by
  cases start text with
  | nil =>
      intro _
      rw [fillChars_nil, fillChars_nil]
  | @char char rest plain =>
      intro absent
      have absentBehind : ¬ source name <:+: rest := fun isInfix =>
        absent (isInfix.trans (List.suffix_cons _ _).isInfix)
      rw [fillChars_char plain, fillChars_char plain, fillChars_insert name found rest absentBehind]
  | @pair rest inner behind closed =>
      intro absent
      have shorter := cutPair_shortens closed
      have split : '\x7b' :: '\x7b' :: rest = (openPair ++ inner ++ closePair) ++ behind := by
        rw [Text.eq_append_of_cutPair closed]
        simp [openPair, closePair]
      have absentBehind : ¬ source name <:+: behind := fun isInfix =>
        absent (isInfix.trans (List.IsSuffix.isInfix ⟨_, split.symm⟩))
      rw [fillChars_pair closed, fillChars_pair closed,
        fillChars_insert name found behind absentBehind]
  | openPair isOpen =>
      intro _
      rw [fillChars_open isOpen, fillChars_open isOpen]
  | @single rest other behind apart closed =>
      intro absent
      have shorter := cut_shortens closed
      have split : '\x7b' :: rest = source other ++ behind := by
        rw [(Text.eq_append_of_cut closed).1, source_append]
      have different : String.ofList other ≠ String.ofList name := by
        intro same
        rw [String.ofList_injective same] at split
        exact absent (split ▸ (List.prefix_append _ _).isInfix)
      have sameValue : value (parameters.insert (String.ofList name) found) other =
          value parameters other := by
        rw [value, Dict.get?_insert, if_neg different, value]
      have absentBehind : ¬ source name <:+: behind := fun isInfix =>
        absent (isInfix.trans (List.IsSuffix.isInfix ⟨_, split.symm⟩))
      rw [fillChars_single apart closed, fillChars_single apart closed, sameValue,
        fillChars_insert name found behind absentBehind]
  | openSingle apart isOpen =>
      intro _
      rw [fillChars_unclosed apart isOpen, fillChars_unclosed apart isOpen]
termination_by text.length
decreasing_by all_goals (simp only [List.length_cons] at *; omega)

/-! ## Tokens

A single opening brace before a token makes the walk look up a name that has the braces of the
token in it. If there is no such key, all of it is copied. -/

/-- No key has an opening brace in it. -/
def PlainKeys (keys : List String) : Prop := ∀ key ∈ keys, '\x7b' ∉ key.toList

/-- What a segment of a template becomes: a token stays, and the placeholders of a literal text
are replaced. -/
def fillSegment (parameters : Dict Json) : Segment → List Char
  | .literal text => fillChars parameters text.toList
  | .token _ written => written.toList

theorem value_of_brace (plainKeys : PlainKeys parameters.keys) {name : List Char}
    (brace : '\x7b' ∈ name) : value parameters name = source name := by
  refine value_of_notMem fun isKey => plainKeys _ isKey ?_
  rwa [String.toList_ofList]

/-- An opening pair before a token that is not closed is closed by the token. -/
theorem cutPair_token {front inner : List Char}
    (isOpen : Text.cutPair '\x7d' '\x7d' front = none) (noClose : '\x7d' ∉ inner)
    (back : List Char) :
    Text.cutPair '\x7d' '\x7d' (front ++ (openPair ++ inner ++ closePair ++ back)) =
      some (front ++ (openPair ++ inner), back) := by
  have noCloseBefore : '\x7d' ∉ openPair ++ inner := by
    rw [List.mem_append, not_or]
    exact ⟨by decide, noClose⟩
  have closed : Text.cutPair '\x7d' '\x7d' (openPair ++ inner ++ closePair ++ back) =
      some (openPair ++ inner, back) := Text.cutPair_of_notMem back noCloseBefore
  have joined := Text.cutPair_append_of_none isOpen (show '\x7b' ≠ '\x7d' by decide)
    ('\x7b' :: (inner ++ closePair ++ back))
  rw [show '\x7b' :: '\x7b' :: (inner ++ closePair ++ back) =
    openPair ++ inner ++ closePair ++ back from rfl] at joined
  rw [joined, closed]
  rfl

/-- An opening brace before a token that is not closed is closed by the token. -/
theorem cut_token {front inner : List Char} (isOpen : Text.cut '\x7d' front = none)
    (noClose : '\x7d' ∉ inner) (back : List Char) :
    Text.cut '\x7d' (front ++ (openPair ++ inner ++ closePair ++ back)) =
      some (front ++ (openPair ++ inner), '\x7d' :: back) := by
  have noCloseBefore : '\x7d' ∉ front ++ (openPair ++ inner) := by
    simp only [List.mem_append, not_or]
    exact ⟨Text.cut_eq_none_iff.1 isOpen, by decide, noClose⟩
  have closed := Text.cut_of_notMem ('\x7d' :: back) noCloseBefore
  rw [← closed]
  simp [closePair]

/-- The walk is split at each token. -/
theorem fillChars_token (plainKeys : PlainKeys parameters.keys) {inner : List Char}
    (noClose : '\x7d' ∉ inner) (front back : List Char) :
    fillChars parameters (front ++ (openPair ++ inner ++ closePair ++ back)) =
      fillChars parameters front ++ (openPair ++ inner ++ closePair) ++
        fillChars parameters back := by
  cases start front with
  | nil =>
      rw [List.nil_append, fillChars_nil, List.nil_append]
      exact fillChars_pair (Text.cutPair_of_notMem back noClose)
  | @char char front plain =>
      rw [fillChars_char plain, List.cons_append, fillChars_char plain,
        fillChars_token plainKeys noClose front back]
      rfl
  | @pair rest earlier behind closed =>
      have shorter := cutPair_shortens closed
      rw [fillChars_pair closed, List.cons_append, List.cons_append,
        fillChars_pair (Text.cutPair_append closed _),
        fillChars_token plainKeys noClose behind back]
      simp only [List.append_assoc]
  | openPair isOpen =>
      rw [fillChars_open isOpen, List.cons_append, List.cons_append,
        fillChars_pair (cutPair_token isOpen noClose back)]
      simp [Template.openPair]
  | @single rest name behind apart closed =>
      have shorter := cut_shortens closed
      rw [fillChars_single apart closed, List.cons_append,
        fillChars_single (head?_append_ne (ne_nil_of_cut closed) apart)
          (Text.cut_append closed _),
        fillChars_token plainKeys noClose behind back]
      simp only [List.append_assoc]
  | @openSingle rest apart isOpen =>
      cases rest with
      | nil =>
          -- The brace and the first one of the token are taken for the opening pair.
          have noCloseBefore : '\x7d' ∉ '\x7b' :: inner := by
            rw [List.mem_cons, not_or]
            exact ⟨by decide, noClose⟩
          rw [fillChars_unclosed apart isOpen]
          exact fillChars_pair (Text.cutPair_of_notMem back noCloseBefore)
      | cons next rest =>
          have brace : '\x7b' ∈ next :: rest ++ (openPair ++ inner) :=
            List.mem_append_right _ List.mem_cons_self
          rw [fillChars_unclosed apart isOpen, List.cons_append,
            fillChars_single (head?_append_ne (List.cons_ne_nil _ _) apart)
              (cut_token isOpen noClose back),
            value_of_brace plainKeys brace, fillChars_char (by decide), source]
          simp [closePair]
termination_by front.length
decreasing_by all_goals (simp only [List.length_cons] at *; omega)

/-- The walk fills each literal text of a template on its own, and keeps each token. -/
theorem fillChars_textOf (plainKeys : PlainKeys parameters.keys) {segments : List Segment}
    (chain : segments.IsChain Template.Apart)
    (areTokens : ∀ name written, .token name written ∈ segments → Template.IsToken name written) :
    fillChars parameters (Template.textOf segments).toList =
      segments.flatMap (fillSegment parameters) := by
  match segments with
  | [] => exact fillChars_nil
  | .token name written :: rest =>
      obtain ⟨inner, encloses, isWritten⟩ := areTokens name written List.mem_cons_self
      have noClose : '\x7d' ∉ inner := fun member => (encloses.ne_brace member).2 rfl
      have restFilled : fillChars parameters (Template.textOf rest).toList =
          rest.flatMap (fillSegment parameters) :=
        fillChars_textOf plainKeys chain.tail fun name written member =>
          areTokens name written (List.mem_cons_of_mem _ member)
      have walked := fillChars_token plainKeys noClose [] (Template.textOf rest).toList
      rw [List.nil_append, fillChars_nil, List.nil_append, ← isWritten, restFilled] at walked
      rw [Template.toList_textOf_cons, List.flatMap_cons]
      exact walked
  | [.literal text] =>
      simp [Segment.source, fillSegment]
  | .literal text :: .literal next :: rest =>
      rcases (List.isChain_cons_cons.1 chain).1 with isLiteral | isLiteral
      · cases isLiteral
      · cases isLiteral
  | .literal text :: .token name written :: rest =>
      obtain ⟨inner, encloses, isWritten⟩ := areTokens name written (by simp)
      have noClose : '\x7d' ∉ inner := fun member => (encloses.ne_brace member).2 rfl
      have restFilled : fillChars parameters (Template.textOf rest).toList =
          rest.flatMap (fillSegment parameters) :=
        fillChars_textOf plainKeys chain.tail.tail fun name written member =>
          areTokens name written (List.mem_cons_of_mem _ (List.mem_cons_of_mem _ member))
      have walked := fillChars_token plainKeys noClose text.toList (Template.textOf rest).toList
      rw [← isWritten, restFilled] at walked
      rw [Template.toList_textOf_cons, Template.toList_textOf_cons, List.flatMap_cons,
        List.flatMap_cons]
      rw [List.append_assoc] at walked
      exact walked

end Placeholder

end RequestFlow
