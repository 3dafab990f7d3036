import RequestFlow.Proofs.Request.PlaceholderWalk

/-!
Contract: the placeholders that are filled in, and those that should be.

A placeholder should be filled in when its name is a key without braces and its braces have no
other brace next to them. The walk does so as long as the braces before it are closed: what an
open brace leads to is copied with the placeholders in it, or is taken for a name.

Owns: what a text is with the right placeholders replaced; the texts for which the walk gives
that text, whatever the values are, all tidy ones among them; and the tokens of a text, which no
placeholder that should be filled in reaches into.
-/

namespace RequestFlow

namespace Placeholder

open Template (openPair closePair)

variable {parameters : Dict Json}

/-! ## What should be filled in -/

/-- A placeholder that should be filled in: a key without braces, in braces that stand next to
no other brace on their outer side. -/
structure Declared (keys : List String) (before name after : List Char) : Prop where
  nonempty : name ≠ []
  noBrace : ∀ char ∈ name, char ≠ '\x7b' ∧ char ≠ '\x7d'
  isKey : String.ofList name ∈ keys
  apartBefore : before.getLast? ≠ some '\x7b'
  apartAfter : after.head? ≠ some '\x7d'

/-- The text that stands behind `before`, with each placeholder that should be filled in
replaced by its value, and with all other characters as they were. -/
inductive Replaced (parameters : Dict Json) : (before text out : List Char) → Prop
  | nil {before : List Char} : Replaced parameters before [] []
  | placeholder {before name after out : List Char}
      (declared : Declared parameters.keys before name after)
      (behind : Replaced parameters (before ++ source name) after out) :
      Replaced parameters before (source name ++ after) (value parameters name ++ out)
  | copied {before : List Char} {char : Char} {rest out : List Char}
      (undeclared : ∀ name after, char :: rest = source name ++ after →
        ¬ Declared parameters.keys before name after)
      (behind : Replaced parameters (before ++ [char]) rest out) :
      Replaced parameters before (char :: rest) (char :: out)

section Declared

variable {keys : List String} {before name after : List Char}

theorem Declared.apart (declared : Declared keys before name after) :
    name.head? ≠ some '\x7b' := by
  intro head
  exact (declared.noBrace _ (List.mem_of_mem_head? head)).1 rfl

theorem Declared.noOpen (declared : Declared keys before name after) : '\x7b' ∉ name :=
  fun member => (declared.noBrace _ member).1 rfl

theorem Declared.closes (declared : Declared keys before name after) : '\x7d' ∉ name :=
  fun member => (declared.noBrace _ member).2 rfl

theorem Declared.filled_of_settled (declared : Declared keys before name after)
    (settled : Settled before) : Filled keys before name :=
  ⟨settled, declared.apart, declared.closes, declared.isKey⟩

end Declared

/-- A name in braces is told by where it starts, if the braces are the next ones. -/
theorem source_unique {left right leftAfter rightAfter : List Char} (leftCloses : '\x7d' ∉ left)
    (rightCloses : '\x7d' ∉ right)
    (same : source left ++ leftAfter = source right ++ rightAfter) :
    left = right ∧ leftAfter = rightAfter := by
  rw [source_append, source_append] at same
  have sides := cut_source leftCloses leftAfter
  rw [(List.cons.inj same).2, cut_source rightCloses rightAfter] at sides
  cases sides
  exact ⟨rfl, rfl⟩

/-- There is one text with the right placeholders replaced. -/
theorem Replaced.unique {before text left right : List Char}
    (first : Replaced parameters before text left)
    (second : Replaced parameters before text right) : left = right := by
  induction first generalizing right with
  | nil => cases second; rfl
  | @placeholder before name after out declared behind inductionHypothesis =>
      generalize isText : source name ++ after = text at second
      cases second with
      | nil => cases isText
      | @placeholder _ other afterOther outOther declaredOther behindOther =>
          obtain ⟨rfl, rfl⟩ := source_unique declared.closes declaredOther.closes isText
          rw [inductionHypothesis behindOther]
      | copied undeclared behindOther => exact absurd declared (undeclared _ _ isText.symm)
  | @copied before char text out undeclared behind inductionHypothesis =>
      generalize isText : char :: text = whole at second
      cases second with
      | nil => cases isText
      | placeholder declared behindOther => exact absurd declared (undeclared _ _ isText)
      | copied undeclaredOther behindOther =>
          cases isText
          rw [inductionHypothesis behindOther]

/-- The placeholders of a text that should be filled in are those that the walk finds. -/
structure Orderly (keys : List String) (text : List Char) : Prop where
  /-- No brace is open before a placeholder that should be filled in. -/
  settled : ∀ before name after, text = before ++ source name ++ after →
    Declared keys before name after → Settled before
  /-- What is filled in has a name without an opening brace, and one closing brace behind it. -/
  noOther : ∀ before name after, text = before ++ source name ++ after →
    Filled keys before name → name ≠ [] ∧ '\x7b' ∉ name ∧ after.head? ≠ some '\x7d'

theorem orderly_iff {keys : List String} {text : List Char} :
    Orderly keys text ↔ ∀ before name after, text = before ++ source name ++ after →
      (Declared keys before name after ↔ Filled keys before name) := by
  constructor
  · intro orderly before name after split
    constructor
    · intro declared
      exact declared.filled_of_settled (orderly.settled _ _ _ split declared)
    · intro filled
      obtain ⟨nonempty, noOpen, apartAfter⟩ := orderly.noOther _ _ _ split filled
      refine ⟨nonempty, fun char member => ⟨?_, ?_⟩, filled.isKey,
        filled.settled.getLast?_ne, apartAfter⟩
      · rintro rfl
        exact noOpen member
      · rintro rfl
        exact filled.closes member
  · intro same
    constructor
    · intro before name after split declared
      exact ((same _ _ _ split).1 declared).settled
    · intro before name after split filled
      have declared := (same _ _ _ split).2 filled
      exact ⟨declared.nonempty, fun member => (declared.noBrace _ member).1 rfl,
        declared.apartAfter⟩

/-- A part without placeholders that should be filled in is copied. -/
theorem replaced_block {before block rest out : List Char}
    (undeclared : ∀ front back name after, block = front ++ back → back ≠ [] →
      back ++ rest = source name ++ after →
      ¬ Declared parameters.keys (before ++ front) name after)
    (behind : Replaced parameters (before ++ block) rest out) :
    Replaced parameters before (block ++ rest) (block ++ out) := by
  induction block generalizing before with
  | nil =>
      rw [List.append_nil] at behind
      exact behind
  | cons char block inductionHypothesis =>
      refine .copied ?_ (inductionHypothesis ?_ ?_)
      · intro name after split
        have here := undeclared [] (char :: block) name after rfl (List.cons_ne_nil _ _) split
        rwa [List.append_nil] at here
      · intro front back name after split notLast
        rw [List.append_assoc, List.singleton_append]
        exact undeclared (char :: front) back name after (congrArg (char :: ·) split) notLast
      · rwa [List.append_assoc, List.singleton_append]

/-- Within a part that is copied no placeholder is filled in. -/
theorem Copied.unfilled_within {keys : List String} {before block rest : List Char}
    (copied : Copied keys block rest) (settled : Settled before) {front back name after : List Char}
    (split : block = front ++ back) (notLast : back ≠ [])
    (here : back ++ rest = source name ++ after) : ¬ Filled keys (before ++ front) name := by
  intro filled
  have frontSettled := settled.of_append filled.settled
  cases front with
  | nil =>
      obtain rfl : block = back := split
      exact copied.unfilled name after here ⟨.nil, filled.apart, filled.closes, filled.isKey⟩
  | cons char more => exact copied.solid _ _ split (List.cons_ne_nil _ _) notLast frontSettled

/-- If the right placeholders are filled in, the walk replaces them. -/
theorem replaced_of_orderly {whole : List Char} (orderly : Orderly parameters.keys whole)
    {before text : List Char} (isWhole : whole = before ++ text)
    (settledOrEnd : Settled before ∨ text = []) :
    Replaced parameters before text (fillChars parameters text) := by
  by_cases nonempty : text = []
  case pos =>
    subst nonempty
    rw [fillChars]
    exact .nil
  case neg =>
    have settled := settledOrEnd.resolve_right nonempty
    rcases fillChars_cases parameters nonempty with
      ⟨block, rest, rfl, copied, walked⟩ | ⟨name, rest, rfl, filled, walked⟩
    · have shorter : rest.length < (block ++ rest).length := by
        have := List.length_pos_iff.2 copied.nonempty
        simp only [List.length_append]
        omega
      rw [walked]
      refine replaced_block ?_ (replaced_of_orderly orderly ?_ ?_)
      · intro front back name after split notLast here declared
        refine copied.unfilled_within settled split notLast here ?_
        refine declared.filled_of_settled (orderly.settled _ name after ?_ declared)
        rw [isWhole, split, List.append_assoc front, here]
        simp
      · rw [isWhole, List.append_assoc]
      · exact copied.ends.imp settled.append id
    · have shorter : rest.length < (source name ++ rest).length := by
        simp only [source_append, List.length_cons, List.length_append]
        omega
      rw [walked]
      have declared : Declared parameters.keys before name rest := by
        refine (orderly_iff.1 orderly before name rest ?_).2
          ⟨settled, filled.apart, filled.closes, filled.isKey⟩
        rw [isWhole, List.append_assoc]
      refine .placeholder declared (replaced_of_orderly orderly ?_ (.inl ?_))
      · rw [isWhole, List.append_assoc]
      · exact settled.append (settled_source filled.apart filled.closes)
termination_by text.length

/-! ## The converse

It is shown for values that are not empty and do not start with a brace: then a placeholder that
is filled in shows in the result. -/

/-- Every key has a value that shows where it is filled in. -/
def Shows (parameters : Dict Json) : Prop :=
  ∀ name, String.ofList name ∈ parameters.keys →
    ∃ char more, value parameters name = char :: more ∧ char ≠ '\x7b'

/-- Where the result starts with what the text starts with, nothing is replaced. -/
theorem replaced_through (shows : Shows parameters) {before block rest out : List Char}
    (replaced : Replaced parameters before (block ++ rest) (block ++ out)) :
    Replaced parameters (before ++ block) rest out ∧
      ∀ front back name after, block = front ++ back → back ≠ [] →
        back ++ rest = source name ++ after →
        ¬ Declared parameters.keys (before ++ front) name after := by
  induction block generalizing before with
  | nil =>
      rw [List.append_nil]
      refine ⟨replaced, fun front back name after split notLast _ => ?_⟩
      exact absurd (List.append_eq_nil_iff.1 split.symm).2 notLast
  | cons char block inductionHypothesis =>
      generalize isText : (char :: block) ++ rest = text at replaced
      generalize isOut : (char :: block) ++ out = made at replaced
      cases replaced with
      | nil => cases isText
      | @placeholder _ name after out declared _ =>
          obtain ⟨shown, more, isValue, notBrace⟩ := shows name declared.isKey
          rw [source_append] at isText
          rw [isValue] at isOut
          exact absurd ((List.cons.inj isOut).1.symm.trans (List.cons.inj isText).1) notBrace
      | copied undeclared behind =>
          cases isText
          cases isOut
          obtain ⟨later, none⟩ := inductionHypothesis behind
          rw [List.append_assoc, List.singleton_append] at later
          refine ⟨later, fun front back name after split notLast here => ?_⟩
          cases front with
          | nil =>
              rw [List.nil_append] at split
              subst split
              rw [List.append_nil]
              exact undeclared name after here
          | cons first front =>
              cases split
              have notHere := none front back name after rfl notLast here
              rwa [List.append_assoc, List.singleton_append] at notHere

/-- Where a placeholder is filled in, the text starts with one that should be. -/
theorem declared_of_replaced_value (shows : Shows parameters) {before name rest out : List Char}
    (filled : Filled parameters.keys [] name)
    (replaced : Replaced parameters before (source name ++ rest)
      (value parameters name ++ out)) :
    Declared parameters.keys before name rest ∧
      Replaced parameters (before ++ source name) rest out := by
  obtain ⟨shown, more, isValue, notBrace⟩ := shows name filled.isKey
  generalize isText : source name ++ rest = text at replaced
  generalize isOut : value parameters name ++ out = made at replaced
  cases replaced with
  | nil => cases isText
  | @placeholder _ other after out declared behind =>
      obtain ⟨rfl, rfl⟩ := source_unique filled.closes declared.closes isText
      rw [List.append_cancel_left isOut]
      exact ⟨declared, behind⟩
  | copied _ _ =>
      rw [isValue] at isOut
      rw [source_append] at isText
      exact absurd ((List.cons.inj isOut).1.trans (List.cons.inj isText).1.symm) notBrace

/-- Of a part that begins within or behind another one, what is left is known. -/
theorem append_cases {block rest front tail : List Char} (split : block ++ rest = front ++ tail) :
    (∃ more, front = block ++ more ∧ rest = more ++ tail) ∨
      ∃ inside, inside ≠ [] ∧ block = front ++ inside ∧ tail = inside ++ rest := by
  rcases List.append_eq_append_iff.1 split with ⟨more, isFront, isRest⟩ | ⟨inside, isBlock, isTail⟩
  · exact .inl ⟨more, isFront, isRest⟩
  · by_cases nonempty : inside = []
    case pos =>
      subst nonempty
      rw [List.append_nil] at isBlock
      exact .inl ⟨[], by rw [List.append_nil, isBlock], isTail.symm⟩
    case neg => exact .inr ⟨inside, nonempty, isBlock, isTail⟩

/-- Within a placeholder whose name has no opening brace nothing starts with one. -/
theorem not_within_source {outer rest tail : List Char} (noOpen : '\x7b' ∉ outer)
    {front inside : List Char} (nonempty : inside ≠ [])
    (isSource : source outer = front ++ inside) (isInside : '\x7b' :: tail = inside ++ rest) :
    front = [] := by
  cases front with
  | nil => rfl
  | cons first front =>
      obtain ⟨char, inside, rfl⟩ := List.exists_cons_of_ne_nil nonempty
      obtain ⟨rfl, -⟩ := List.cons.inj isInside
      have behind : outer ++ ['\x7d'] = front ++ '\x7b' :: inside := (List.cons.inj isSource).2
      have member : '\x7b' ∈ outer ++ ['\x7d'] := by
        rw [behind]
        exact List.mem_append_right _ List.mem_cons_self
      rw [List.mem_append] at member
      exact absurd member (not_or.2 ⟨noOpen, by decide⟩)

/-- What a walk that replaces the right placeholders fills in. -/
theorem declared_iff_filled (shows : Shows parameters) {before text : List Char}
    (settledOrEnd : Settled before ∨ text = [])
    (replaced : Replaced parameters before text (fillChars parameters text))
    {front name after : List Char} (split : text = front ++ (source name ++ after)) :
    Declared parameters.keys (before ++ front) name after ↔
      Filled parameters.keys (before ++ front) name := by
  have nonempty : text ≠ [] := by
    rintro rfl
    have lengths := congrArg List.length split
    simp [source] at lengths
  have settled := settledOrEnd.resolve_right nonempty
  rcases fillChars_cases parameters nonempty with
    ⟨block, rest, isText, copied, walked⟩ | ⟨outer, rest, isText, filled, walked⟩
  · have shorter : rest.length < text.length := by
      have := List.length_pos_iff.2 copied.nonempty
      rw [isText, List.length_append]
      omega
    rw [walked, isText] at replaced
    rw [isText] at split
    obtain ⟨behind, undeclared⟩ := replaced_through shows replaced
    rcases append_cases split with ⟨more, rfl, isRest⟩ | ⟨inside, notLast, isBlock, isTail⟩
    · rw [← List.append_assoc]
      exact declared_iff_filled shows (copied.ends.imp settled.append id) behind isRest
    · exact iff_of_false (undeclared _ _ _ _ isBlock notLast isTail.symm)
        (copied.unfilled_within settled isBlock notLast isTail.symm)
  · have shorter : rest.length < text.length := by
      simp only [isText, source_append, List.length_cons, List.length_append]
      omega
    rw [walked, isText] at replaced
    rw [isText] at split
    obtain ⟨declared, behind⟩ := declared_of_replaced_value shows filled replaced
    rcases append_cases split with ⟨more, rfl, isRest⟩ | ⟨inside, notLast, isSource, isTail⟩
    · have outerSettled := settled.append (settled_source filled.apart filled.closes)
      rw [← List.append_assoc]
      exact declared_iff_filled shows (.inl outerSettled) behind isRest
    · rw [source_append] at isTail
      obtain rfl := not_within_source declared.noOpen notLast isSource isTail
      rw [List.append_nil]
      constructor
      · intro declaredHere
        exact declaredHere.filled_of_settled settled
      · intro filledHere
        obtain ⟨rfl, rfl⟩ := source_unique filledHere.closes filled.closes split.symm
        exact declared
termination_by text.length

/-! ## Tokens -/

/-- No placeholder that should be filled in is in `block`, or reaches into it. -/
def Untouched (keys : List String) (front block back : List Char) : Prop :=
  ∀ before name after, front ++ block ++ back = before ++ source name ++ after →
    Declared keys before name after →
    (∃ between, front = before ++ source name ++ between) ∨
      ∃ between, before = front ++ block ++ between

/-- What starts with an opening brace within a token starts with the first or the second one. -/
theorem brace_of_token {inner front inside rest tail : List Char} (noOpen : '\x7b' ∉ inner)
    (nonempty : inside ≠ []) (isToken : openPair ++ inner ++ closePair = front ++ inside)
    (isInside : '\x7b' :: tail = inside ++ rest) : front = [] ∨ front = ['\x7b'] := by
  obtain ⟨char, inside, rfl⟩ := List.exists_cons_of_ne_nil nonempty
  obtain ⟨rfl, -⟩ := List.cons.inj isInside
  match front, isToken with
  | [], _ => exact .inl rfl
  | [first], isToken =>
      obtain ⟨rfl, -⟩ := List.cons.inj isToken
      exact .inr rfl
  | _ :: _ :: front, isToken =>
      have behind : inner ++ closePair = front ++ '\x7b' :: inside :=
        (List.cons.inj (List.cons.inj isToken).2).2
      have member : '\x7b' ∈ inner ++ closePair := by
        rw [behind]
        exact List.mem_append_right _ List.mem_cons_self
      rw [List.mem_append] at member
      exact absurd member (not_or.2 ⟨noOpen, by decide⟩)

theorem token_ne_source {inner name : List Char} (apart : name.head? ≠ some '\x7b')
    (rest after : List Char) : openPair ++ inner ++ closePair ++ rest ≠ source name ++ after := by
  intro same
  rw [source_append] at same
  exact head?_source apart after (by rw [← (List.cons.inj same).2]; rfl)

theorem untouched_token {keys : List String} {inner : List Char} (noOpen : '\x7b' ∉ inner)
    (front back : List Char) :
    Untouched keys front (openPair ++ inner ++ closePair) back := by
  intro before name after split declared
  rw [List.append_assoc front, List.append_assoc before] at split
  have notHere : openPair ++ inner ++ closePair ++ back ≠ source name ++ after :=
    token_ne_source declared.apart back after
  rcases List.append_eq_append_iff.1 split with ⟨more, rfl, isRest⟩ | ⟨more, rfl, isRest⟩
  · rcases append_cases isRest with ⟨between, rfl, -⟩ | ⟨inside, nonempty, isToken, isInside⟩
    · exact .inr ⟨between, (List.append_assoc _ _ _).symm⟩
    · rw [source_append] at isInside
      rcases brace_of_token noOpen nonempty isToken isInside with rfl | rfl
      · exact absurd isRest notHere
      · exact absurd List.getLast?_concat declared.apartBefore
  · rcases append_cases isRest with ⟨between, rfl, -⟩ | ⟨inside, nonempty, isSource, isInside⟩
    · exact .inl ⟨between, (List.append_assoc _ _ _).symm⟩
    · obtain rfl := not_within_source declared.noOpen nonempty isSource isInside
      exact absurd isRest.symm notHere

theorem replaced_start {before block rest out : List Char}
    (replaced : Replaced parameters before (block ++ rest) out)
    (untouched : Untouched parameters.keys before block rest) :
    ∃ back, out = block ++ back ∧ Replaced parameters (before ++ block) rest back := by
  induction block generalizing before out with
  | nil =>
      rw [List.append_nil]
      exact ⟨out, rfl, replaced⟩
  | cons char block inductionHypothesis =>
      generalize isText : (char :: block) ++ rest = text at replaced
      cases replaced with
      | nil => cases isText
      | @placeholder _ name after out declared behind =>
          have split : before ++ (char :: block) ++ rest = before ++ source name ++ after := by
            rw [List.append_assoc, isText, List.append_assoc]
          rcases untouched _ _ _ split declared with ⟨between, same⟩ | ⟨between, same⟩
          · have lengths := congrArg List.length same
            simp [source] at lengths
          · have lengths := congrArg List.length same
            simp only [List.length_append, List.length_cons] at lengths
            omega
      | copied undeclared behind =>
          cases isText
          have later : Untouched parameters.keys (before ++ [char]) block rest := by
            intro start name after split declared
            simp only [List.append_assoc, List.singleton_append] at split ⊢
            rw [← List.append_assoc start] at split
            rcases untouched start name after (by simpa using split) declared with
              ⟨between, isBefore⟩ | ⟨between, isStart⟩
            · refine .inl ⟨between ++ [char], ?_⟩
              rw [isBefore]
              simp
            · refine .inr ⟨between, ?_⟩
              rw [isStart]
              simp
          obtain ⟨back, rfl, rest⟩ := inductionHypothesis behind later
          refine ⟨back, rfl, ?_⟩
          simpa using rest

/-- A part of a text that no placeholder reaches into is in what the text becomes. -/
theorem replaced_at {before text out : List Char} (replaced : Replaced parameters before text out)
    {front block rest : List Char} (split : text = front ++ (block ++ rest))
    (untouched : Untouched parameters.keys (before ++ front) block rest) :
    ∃ made back, out = made ++ block ++ back ∧
      Replaced parameters (before ++ front ++ block) rest back := by
  have atStart {before text out : List Char} (replaced : Replaced parameters before text out)
      (split : text = [] ++ (block ++ rest))
      (untouched : Untouched parameters.keys (before ++ []) block rest) :
      ∃ made back, out = made ++ block ++ back ∧
        Replaced parameters (before ++ [] ++ block) rest back := by
    rw [split, List.nil_append] at replaced
    rw [List.append_nil] at untouched ⊢
    obtain ⟨back, isOut, behind⟩ := replaced_start replaced untouched
    exact ⟨[], back, isOut, behind⟩
  induction replaced generalizing front with
  | nil =>
      obtain ⟨rfl, -⟩ := List.append_eq_nil_iff.1 split.symm
      exact atStart .nil split untouched
  | @placeholder before name after out declared behind inductionHypothesis =>
      cases front with
      | nil => exact atStart (.placeholder declared behind) split untouched
      | cons char front =>
          have whole : before ++ (char :: front) ++ block ++ rest =
              before ++ source name ++ after := by
            rw [List.append_assoc, List.append_assoc, List.append_assoc, split]
          rcases untouched _ _ _ whole declared with ⟨between, same⟩ | ⟨between, same⟩
          · rw [List.append_assoc, List.append_cancel_left_eq] at same
            rw [same, List.append_assoc, List.append_cancel_left_eq] at split
            rw [same, ← List.append_assoc] at untouched ⊢
            obtain ⟨made, back, rfl, later⟩ := inductionHypothesis split untouched
            refine ⟨value parameters name ++ made, back, ?_, later⟩
            simp only [List.append_assoc]
          · have lengths := congrArg List.length same
            simp only [List.length_append, List.length_cons] at lengths
            omega
  | @copied before char text out undeclared behind inductionHypothesis =>
      cases front with
      | nil => exact atStart (.copied undeclared behind) split untouched
      | cons first front =>
          cases split
          rw [show before ++ char :: front = before ++ [char] ++ front by simp] at untouched ⊢
          obtain ⟨made, back, rfl, later⟩ := inductionHypothesis rfl untouched
          exact ⟨char :: made, back, rfl, later⟩

/-! ## Tidy texts -/

/-- A text that is made of tokens, of names in single braces that no closing brace follows, and of
characters other than opening braces. -/
inductive Tidy : List Char → Prop
  | nil : Tidy []
  | char {char : Char} {rest : List Char} (plain : char ≠ '\x7b') (tidy : Tidy rest) :
      Tidy (char :: rest)
  | token {inner rest : List Char} (noBrace : ∀ char ∈ inner, char ≠ '\x7b' ∧ char ≠ '\x7d')
      (tidy : Tidy rest) : Tidy (openPair ++ inner ++ closePair ++ rest)
  | placeholder {name rest : List Char} (nonempty : name ≠ [])
      (noBrace : ∀ char ∈ name, char ≠ '\x7b' ∧ char ≠ '\x7d')
      (apart : rest.head? ≠ some '\x7d') (tidy : Tidy rest) : Tidy (source name ++ rest)

/-- A part of a text may be put before an orderly one, if it is settled and what starts in it is
as it should be. -/
theorem Orderly.append {keys : List String} {block rest : List Char} (orderly : Orderly keys rest)
    (settled : Settled block)
    (starting : ∀ front inside name after, block = front ++ inside → inside ≠ [] →
      source name ++ after = inside ++ rest →
      (Declared keys front name after → Settled front) ∧
        (Filled keys front name →
          name ≠ [] ∧ '\x7b' ∉ name ∧ after.head? ≠ some '\x7d')) :
    Orderly keys (block ++ rest) where
  settled before name after split declared := by
    rw [List.append_assoc] at split
    rcases append_cases split with ⟨more, rfl, isRest⟩ | ⟨inside, nonempty, isBlock, isInside⟩
    · rw [← List.append_assoc] at isRest
      have later : Declared keys more name after :=
        { declared with apartBefore := Template.getLast?_of_append declared.apartBefore }
      exact settled.append (orderly.settled _ _ _ isRest later)
    · exact (starting _ _ _ _ isBlock nonempty isInside).1 declared
  noOther before name after split filled := by
    rw [List.append_assoc] at split
    rcases append_cases split with ⟨more, rfl, isRest⟩ | ⟨inside, nonempty, isBlock, isInside⟩
    · rw [← List.append_assoc] at isRest
      exact orderly.noOther _ _ _ isRest
        { filled with settled := settled.of_append filled.settled }
    · exact (starting _ _ _ _ isBlock nonempty isInside).2 filled

/-- In a tidy text the right placeholders are filled in, whatever the keys are. -/
theorem Tidy.orderly {text : List Char} (tidy : Tidy text) (keys : List String) :
    Orderly keys text := by
  induction tidy with
  | nil =>
      have nowhere {before name after : List Char} (split : [] = before ++ source name ++ after) :
          False := by
        have lengths := congrArg List.length split
        simp [source] at lengths
      exact ⟨fun _ _ _ split => (nowhere split).elim, fun _ _ _ split => (nowhere split).elim⟩
  | @char char rest plain _ inductionHypothesis =>
      refine Orderly.append inductionHypothesis (.char plain .nil) ?_
      intro front inside name after isBlock nonempty isInside
      obtain ⟨rfl, rfl⟩ : front = [] ∧ inside = [char] := by
        rcases List.append_eq_singleton_iff.1 isBlock.symm with sides | ⟨-, nothing⟩
        · exact sides
        · exact absurd nothing nonempty
      rw [source_append] at isInside
      exact absurd (List.cons.inj isInside).1.symm plain
  | @token inner rest noBrace _ inductionHypothesis =>
      have noOpen : '\x7b' ∉ inner := fun member => (noBrace _ member).1 rfl
      have noClose : '\x7d' ∉ inner := fun member => (noBrace _ member).2 rfl
      refine inductionHypothesis.append (settled_token noClose) ?_
      intro front inside name after isBlock nonempty isInside
      have starts := isInside
      rw [source_append] at starts
      rcases brace_of_token noOpen nonempty isBlock starts with rfl | rfl
      · rw [List.nil_append] at isBlock
        rw [← isBlock] at isInside
        have notHere (apart : name.head? ≠ some '\x7b') : False :=
          token_ne_source apart rest after isInside.symm
        exact ⟨fun declared => (notHere declared.apart).elim,
          fun filled => (notHere filled.apart).elim⟩
      · exact ⟨fun declared => absurd rfl declared.apartBefore,
          fun filled => absurd rfl filled.settled.getLast?_ne⟩
  | @placeholder outer rest nonemptyName noBrace apart _ inductionHypothesis =>
      have noOpen : '\x7b' ∉ outer := fun member => (noBrace _ member).1 rfl
      have noClose : '\x7d' ∉ outer := fun member => (noBrace _ member).2 rfl
      have outerApart : outer.head? ≠ some '\x7b' := fun head =>
        noOpen (List.mem_of_mem_head? head)
      refine inductionHypothesis.append (settled_source outerApart noClose) ?_
      intro front inside name after isBlock nonempty isInside
      have starts := isInside
      rw [source_append] at starts
      obtain rfl := not_within_source noOpen nonempty isBlock starts
      rw [List.nil_append] at isBlock
      rw [← isBlock] at isInside
      refine ⟨fun _ => .nil, fun filled => ?_⟩
      obtain ⟨rfl, rfl⟩ := source_unique filled.closes noClose isInside
      exact ⟨nonemptyName, noOpen, apart⟩

/-! ## When the right placeholders are filled in -/

/-- Texts that are one character, for the keys of some parameters. -/
def marked (parameters : Dict Json) : Dict Json :=
  parameters.mapValues fun _ _ => .string "x"

theorem shows_marked : Shows (marked parameters) := by
  intro name isKey
  obtain ⟨found, held, isValue⟩ := value_of_mem isKey
  have isMark : found = .string "x" := by
    have member := Dict.mem_values_of_get? held
    simp only [marked, Dict.mapValues, Dict.values, List.map_map, List.mem_map] at member
    obtain ⟨_, -, isMark⟩ := member
    exact isMark.symm
  rw [isMark] at isValue
  refine ⟨'x', [], isValue.trans ?_, by decide⟩
  decide +kernel

theorem keys_marked : (marked parameters).keys = parameters.keys := by
  simp [marked, Dict.mapValues, Dict.keys]

/-- For one text and one set of keys, the walk replaces the placeholders that should be filled
in, and nothing else, whatever the values are, exactly if the text is orderly. A text with these
placeholders replaced has all tokens of the template in it: none of the placeholders reaches
into a token. Unless a key has an opening brace, the walk keeps the tokens of every text, and
fills the text between them piece by piece. -/
theorem fill_replaces_iff (parameters : Dict Json) (text : String) :
    ((∀ other : Dict Json, other.keys = parameters.keys →
        Replaced other [] text.toList (fill other text).toList) ↔
      Orderly parameters.keys text.toList) ∧
    (∀ first name token rest, Template.parse text = first ++ .token name token :: rest →
      let front := (Template.textOf first).toList
      let back := (Template.textOf rest).toList
      Untouched parameters.keys front token.toList back ∧
      ∀ out, Replaced parameters [] text.toList out → ∃ made more,
        out = made ++ token.toList ++ more ∧
          Replaced parameters (front ++ token.toList) back more) ∧
    (PlainKeys parameters.keys →
      (fill parameters text).toList =
        (Template.parse text).flatMap (fillSegment parameters)) := by
  refine ⟨⟨fun replaced => ?_, fun orderly other sameKeys => ?_⟩, ?_, fun plainKeys => ?_⟩
  · have walked := replaced (marked parameters) keys_marked
    rw [fill, String.toList_ofList] at walked
    rw [orderly_iff, ← keys_marked]
    intro before name after split
    rw [List.append_assoc] at split
    exact declared_iff_filled shows_marked (.inl .nil) walked split
  · rw [← sameKeys] at orderly
    rw [fill, String.toList_ofList]
    exact replaced_of_orderly orderly rfl (.inl .nil)
  · intro first name token rest parsed front back
    obtain ⟨inner, encloses, isWritten⟩ : Template.IsToken name token :=
      Template.isToken_of_mem_parse (by rw [parsed]; simp)
    have noOpen : '\x7b' ∉ inner := fun member => (encloses.ne_brace member).1 rfl
    have untouched : Untouched parameters.keys front token.toList back := by
      rw [isWritten]
      exact untouched_token noOpen front back
    have split : text.toList = front ++ (token.toList ++ back) := by
      rw [← Template.textOf_parse text, parsed]
      simp [Segment.source, front, back]
    exact ⟨untouched, fun out replaced => replaced_at replaced split untouched⟩
  · have chain : (Template.parse text).IsChain Template.Apart := Template.isChain_scan _ _
    rw [← fillChars_textOf plainKeys chain fun _ _ => Template.isToken_of_mem_parse,
      Template.textOf_parse, fill, String.toList_ofList]

def userId : Dict Json := Dict.ofList [("id", .string "7")]

theorem noBrace_of_all {name : List Char}
    (all : (name.all fun char => char != '\x7b' && char != '\x7d') = true) :
    ∀ char ∈ name, char ≠ '\x7b' ∧ char ≠ '\x7d' := by
  simpa [List.all_eq_true] using all

/-- A path with a token and an identifier. -/
def userPath : String := "/\x7b\x7btoken\x7d\x7d/\x7bid\x7d"

theorem tidy_userPath : Tidy userPath.toList := by
  have parts : userPath.toList = '/' :: (openPair ++ "token".toList ++ closePair ++
      '/' :: (source "id".toList ++ [])) := by decide +kernel
  rw [parts]
  apply Tidy.char (by decide)
  apply Tidy.token (noBrace_of_all (by decide +kernel))
  apply Tidy.char (by decide)
  exact .placeholder (by decide +kernel) (noBrace_of_all (by decide +kernel)) (by decide) .nil

/-- The identifier is filled in and the token stays, and so it is with every value. -/
theorem userPath_filled :
    Orderly userId.keys userPath.toList ∧
      Declared userId.keys "/\x7b\x7btoken\x7d\x7d/".toList "id".toList [] ∧
      fill userId userPath = "/\x7b\x7btoken\x7d\x7d/7" ∧
      ∀ other : Dict Json, other.keys = userId.keys →
        Replaced other [] userPath.toList (fill other userPath).toList := by
  have orderly := tidy_userPath.orderly userId.keys
  refine ⟨orderly, ?_, by decide +kernel, (fill_replaces_iff userId userPath).1.2 orderly⟩
  exact ⟨by decide +kernel, noBrace_of_all (by decide +kernel), by decide +kernel,
    by decide +kernel, by decide +kernel⟩

/-- An opening pair that is not closed, and is no token, keeps the identifier behind it from
being filled in. -/
theorem unclosed_pair_swallows :
    Template.tokens (Template.parse "http://h/\x7b\x7ba/\x7bid\x7d") = [] ∧
      Declared userId.keys "http://h/\x7b\x7ba/".toList "id".toList [] ∧
      fill userId "http://h/\x7b\x7ba/\x7bid\x7d" = "http://h/\x7b\x7ba/\x7bid\x7d" ∧
      ¬ Replaced userId [] "http://h/\x7b\x7ba/\x7bid\x7d".toList
        (fill userId "http://h/\x7b\x7ba/\x7bid\x7d").toList := by
  have declared : Declared userId.keys "http://h/\x7b\x7ba/".toList "id".toList [] :=
    ⟨by decide +kernel, noBrace_of_all (by decide +kernel), by decide +kernel,
      by decide +kernel, by decide +kernel⟩
  have copied : fill userId "http://h/\x7b\x7ba/\x7bid\x7d" =
      "http://h/\x7b\x7ba/\x7bid\x7d" := by decide +kernel
  have shows : Shows userId := by
    intro name isKey
    have onlyKey : userId.keys = ["id"] := by decide +kernel
    rw [onlyKey, List.mem_singleton] at isKey
    have held : userId.get? (String.ofList name) = some (.string "7") := by
      rw [isKey]
      decide +kernel
    refine ⟨'7', [], (value_of_get? held).trans ?_, by decide⟩
    decide +kernel
  refine ⟨by decide +kernel, declared, copied, fun replaced => ?_⟩
  rw [copied, ← List.append_nil "http://h/\x7b\x7ba/\x7bid\x7d".toList] at replaced
  exact (replaced_through shows replaced).2 "http://h/\x7b\x7ba/".toList (source "id".toList)
    "id".toList [] (by decide +kernel) (by decide +kernel) rfl declared

end Placeholder

end RequestFlow
