import Mathlib.Data.List.TakeWhile
import RequestFlow.Text.Blank
import RequestFlow.Text.Split

/-!
Contract: what trims and cuts do to a text.

Owns: the start of a text up to a character, and what starts or ends a text with a mark in it;
the blanks that a trim drops, and the texts that have the same trim; the two sides of a cut at a
mark or at a pair of characters, and the texts whose first one is known; the pieces of texts that
are joined by a mark, and the texts that pieces make up.
-/

namespace RequestFlow.Text

/-! ## Starts and ends of a text -/

section Ends

variable {test : Char → Bool} {mark : Char}

/-- Nothing is dropped behind the first character that stays, and the rest is joined to it. -/
theorem dropWhile_append_cons (stays : test mark = false) (front rest : List Char) :
    (front ++ mark :: rest).dropWhile test = front.dropWhile test ++ mark :: rest := by
  rw [List.dropWhile_append]
  split
  case isTrue nothing =>
    rw [List.isEmpty_iff] at nothing
    rw [nothing, List.dropWhile_cons_of_neg (by rw [stays]; exact Bool.false_ne_true)]
    rfl
  case isFalse => rfl

theorem takeWhile_append_cons (stop : test mark = false) (front rest : List Char) :
    (front ++ mark :: rest).takeWhile test = front.takeWhile test := by
  induction front with
  | nil => exact List.takeWhile_cons_of_neg (by rw [stop]; exact Bool.false_ne_true)
  | cons char front inductionHypothesis =>
      rw [List.cons_append, List.takeWhile_cons, List.takeWhile_cons, inductionHypothesis]

theorem after?_isSome_iff {start text : List Char} :
    (after? start text).isSome ↔ start <+: text := by
  induction start generalizing text with
  | nil => simp [after?]
  | cons expected start inductionHypothesis =>
      cases text with
      | nil => simp [after?]
      | cons char rest =>
          rw [after?, List.cons_prefix_cons]
          split
          case isTrue same => rw [inductionHypothesis, eq_of_beq same, eq_self, true_and]
          case isFalse differs =>
            exact iff_of_false Bool.false_ne_true fun both => differs (beq_iff_eq.2 both.1)

theorem after?_reverse_isSome_iff {ending text : List Char} :
    (after? ending.reverse text.reverse).isSome ↔ ending <:+ text :=
  after?_isSome_iff.trans List.reverse_prefix

/-- What a text without the mark starts ends before the mark. -/
theorem prefix_append_cons_iff {start : List Char} (absent : mark ∉ start)
    (front rest : List Char) : start <+: front ++ mark :: rest ↔ start <+: front := by
  constructor
  · intro starts
    have upToMark : front ++ [mark] <+: front ++ mark :: rest :=
      (List.prefix_append_right_inj front).2 (List.prefix_append [mark] rest)
    rcases List.prefix_or_prefix_of_prefix starts upToMark with shorter | longer
    · exact (List.prefix_concat_iff.1 shorter).resolve_left fun whole =>
        absent (whole ▸ List.mem_concat_self)
    · exact absurd (longer.subset List.mem_concat_self) absent
  · exact fun starts => starts.trans (List.prefix_append front _)

/-- What a text without the mark ends begins behind the mark. -/
theorem suffix_append_cons_iff {ending : List Char} (absent : mark ∉ ending)
    (front rest : List Char) : ending <:+ front ++ mark :: rest ↔ ending <:+ mark :: rest := by
  constructor
  · intro ends
    rcases List.suffix_or_suffix_of_suffix ends (List.suffix_append front (mark :: rest)) with
      shorter | longer
    · exact shorter
    · exact absurd (longer.subset List.mem_cons_self) absent
  · exact fun ends => ends.trans (List.suffix_append front _)

end Ends

/-! ## Trims -/

/-- A trim drops nothing but blanks at both ends. -/
theorem exists_blanks_around_trim (text : List Char) :
    ∃ left right : List Char, left.all isBlank ∧ right.all isBlank ∧
      text = left ++ trim text ++ right := by
  have startSplit : text.takeWhile isBlank ++ trimStart text = text :=
    List.takeWhile_append_dropWhile
  have endSplit : trimStart text =
      trim text ++ ((trimStart text).reverse.takeWhile isBlank).reverse := by
    rw [trim, trimEnd, ← List.reverse_append, List.takeWhile_append_dropWhile,
      List.reverse_reverse]
  refine ⟨text.takeWhile isBlank, ((trimStart text).reverse.takeWhile isBlank).reverse,
    List.all_takeWhile, ?_, ?_⟩
  · rw [List.all_reverse]
    exact List.all_takeWhile
  · rw [List.append_assoc, ← endSplit, startSplit]

/-- Blanks put around a text do not change its trim. -/
theorem trim_append_blanks {left right : List Char} (text : List Char)
    (leftBlank : left.all isBlank) (rightBlank : right.all isBlank) :
    trim (left ++ text ++ right) = trim text := by
  have start : trimStart (left ++ text ++ right) = trimStart (text ++ right) := by
    rw [trimStart, List.append_assoc,
      List.dropWhile_append_of_pos (List.all_eq_true.1 leftBlank)]
    rfl
  have rightDropped : right.dropWhile isBlank = [] :=
    List.dropWhile_eq_nil_iff.2 (List.all_eq_true.1 rightBlank)
  rw [trim, start, trimStart, List.dropWhile_append, rightDropped]
  split
  case isTrue nothingLeft =>
    rw [List.isEmpty_iff] at nothingLeft
    rw [trim, trimStart, nothingLeft]
  case isFalse somethingLeft =>
    rw [trimEnd, List.reverse_append, List.dropWhile_append_of_pos]
    · rfl
    · intro char member
      exact List.all_eq_true.1 rightBlank char (List.mem_reverse.1 member)

/-- A text without blanks is its own trim. -/
theorem trim_eq_self {text : List Char} (solid : ∀ char ∈ text, isBlank char = false) :
    trim text = text := by
  have kept : ∀ chars : List Char, (∀ char ∈ chars, isBlank char = false) →
      chars.dropWhile isBlank = chars := by
    intro chars solid
    rw [List.dropWhile_eq_self_iff]
    intro nonempty
    rw [solid _ (List.getElem_mem nonempty)]
    exact Bool.false_ne_true
  have reversed : ∀ char ∈ text.reverse, isBlank char = false := by
    intro char member
    exact solid char (List.mem_reverse.1 member)
  rw [trim, trimStart, kept text solid, trimEnd, kept text.reverse reversed,
    List.reverse_reverse]

/-- A text that is its own trim starts with no blank. -/
theorem trimStart_eq_self {text : List Char} (trimmed : trim text = text) :
    trimStart text = text := by
  have suffix : trimStart text <:+ text := List.dropWhile_suffix isBlank
  have shorter : (trim text).length ≤ (trimStart text).length := by
    have reversed : (trimStart text).reverse.dropWhile isBlank <:+ (trimStart text).reverse :=
      List.dropWhile_suffix isBlank
    simpa [trim, trimEnd] using reversed.length_le
  apply suffix.eq_of_length
  have longer := suffix.length_le
  rw [trimmed] at shorter
  omega

theorem trim_trimStart (text : List Char) : trim (trimStart text) = trim text := by
  have split : text.takeWhile isBlank ++ trimStart text = text :=
    List.takeWhile_append_dropWhile
  have sameTrim := trim_append_blanks (trimStart text)
    (List.all_takeWhile : (text.takeWhile isBlank).all isBlank) (rfl : [].all isBlank = true)
  rw [List.append_nil, split] at sameTrim
  exact sameTrim.symm

theorem trim_trimEnd (text : List Char) : trim (trimEnd text) = trim text := by
  have split : trimEnd text ++ (text.reverse.takeWhile isBlank).reverse = text := by
    rw [trimEnd, ← List.reverse_append, List.takeWhile_append_dropWhile, List.reverse_reverse]
  have blanks : (text.reverse.takeWhile isBlank).reverse.all isBlank := by
    rw [List.all_reverse]
    exact List.all_takeWhile
  have sameTrim := trim_append_blanks (trimEnd text) (rfl : [].all isBlank = true) blanks
  rw [List.nil_append, split] at sameTrim
  exact sameTrim.symm

/-- Each side of a solid character is trimmed for itself. -/
theorem trim_append_cons {mark : Char} (solid : isBlank mark = false) (front rest : List Char) :
    trim (front ++ mark :: rest) = trimStart front ++ mark :: trimEnd rest := by
  rw [trim, trimStart, dropWhile_append_cons solid, trimEnd, List.reverse_append,
    List.reverse_cons, List.append_assoc, List.singleton_append, dropWhile_append_cons solid]
  simp [trimStart, trimEnd]

/-! ## Cuts at a mark -/

section Cut

variable {mark : Char}

/-- The two sides of a cut and the mark between them make up the text, and no mark stands in
the first one. -/
theorem eq_append_of_cut {text before after : List Char}
    (found : cut mark text = some (before, after)) :
    text = before ++ mark :: after ∧ mark ∉ before := by
  unfold cut at found
  induction text generalizing before with
  | nil => cases found
  | cons char rest inductionHypothesis =>
      simp only [cutWhere] at found
      split at found
      case isTrue here =>
        cases found
        rw [beq_iff_eq] at here
        exact ⟨by rw [here]; rfl, List.not_mem_nil⟩
      case isFalse later =>
        rw [Option.map_eq_some_iff] at found
        obtain ⟨⟨shorter, behind⟩, foundLater, sides⟩ := found
        cases sides
        obtain ⟨split, absent⟩ := inductionHypothesis foundLater
        rw [beq_iff_eq] at later
        refine ⟨congrArg (char :: ·) split, ?_⟩
        rw [List.mem_cons, not_or]
        exact ⟨Ne.symm later, absent⟩

/-- A text is cut at its first mark. -/
theorem cut_of_notMem {before : List Char} (after : List Char) (absent : mark ∉ before) :
    cut mark (before ++ mark :: after) = some (before, after) := by
  unfold cut
  induction before with
  | nil => simp [cutWhere]
  | cons char rest inductionHypothesis =>
      rw [List.mem_cons, not_or] at absent
      have notHere : (char == mark) = false := beq_false_of_ne (Ne.symm absent.1)
      rw [List.cons_append, cutWhere, notHere, if_neg Bool.false_ne_true,
        inductionHypothesis absent.2]
      rfl

/-- A text without a mark is not cut. -/
theorem cut_eq_none_iff {text : List Char} : cut mark text = none ↔ mark ∉ text := by
  constructor
  · intro uncut member
    obtain ⟨before, after, rfl, absent⟩ := List.eq_append_cons_of_mem member
    rw [cut_of_notMem after absent] at uncut
    cases uncut
  · intro absent
    cases found : cut mark text with
    | none => rfl
    | some sides =>
        obtain ⟨before, after⟩ := sides
        obtain ⟨rfl, -⟩ := eq_append_of_cut found
        exact absurd (List.mem_append_right _ List.mem_cons_self) absent

/-- A cut is not moved by what comes behind the text. -/
theorem cut_append {text before after : List Char} (found : cut mark text = some (before, after))
    (more : List Char) : cut mark (text ++ more) = some (before, after ++ more) := by
  obtain ⟨rfl, absent⟩ := eq_append_of_cut found
  rw [List.append_assoc, List.cons_append]
  exact cut_of_notMem (after ++ more) absent

end Cut

/-! ## Cuts at a pair -/

section CutPair

variable {first second : Char}

/-- The two sides of a cut and the pair between them make up the text. -/
theorem eq_append_of_cutPair {text before after : List Char}
    (found : cutPair first second text = some (before, after)) :
    text = before ++ [first, second] ++ after := by
  induction text generalizing before with
  | nil => cases found
  | cons one rest inductionHypothesis =>
      cases rest with
      | nil => cases found
      | cons two rest =>
          simp only [cutPair] at found
          split at found
          case isTrue here =>
            rw [Bool.and_eq_true, beq_iff_eq, beq_iff_eq] at here
            obtain ⟨rfl, rfl⟩ := here
            cases found
            rfl
          case isFalse later =>
            rw [Option.map_eq_some_iff] at found
            obtain ⟨⟨shorter, behind⟩, foundLater, sides⟩ := found
            cases sides
            rw [inductionHypothesis foundLater]
            rfl

/-- A text is cut at the first pair: no pair begins in a part without its first character. -/
theorem cutPair_of_notMem {before : List Char} (after : List Char) (absent : first ∉ before) :
    cutPair first second (before ++ [first, second] ++ after) = some (before, after) := by
  induction before with
  | nil => simp [cutPair]
  | cons char rest inductionHypothesis =>
      rw [List.mem_cons, not_or] at absent
      have later := inductionHypothesis absent.2
      have notHere : (char == first) = false := beq_false_of_ne (Ne.symm absent.1)
      cases rest with
      | nil => simp [cutPair, notHere]
      | cons next more =>
          simp only [List.cons_append, cutPair, notHere, Bool.false_and] at later ⊢
          rw [if_neg Bool.false_ne_true, later]
          rfl

/-- A cut at a pair is not moved by what comes behind the text. -/
theorem cutPair_append {text before after : List Char}
    (found : cutPair first second text = some (before, after)) (more : List Char) :
    cutPair first second (text ++ more) = some (before, after ++ more) := by
  induction text generalizing before with
  | nil => cases found
  | cons one rest inductionHypothesis =>
      cases rest with
      | nil => cases found
      | cons two rest =>
          simp only [cutPair, List.cons_append] at found inductionHypothesis ⊢
          split at found
          case isTrue here =>
            cases found
            rw [if_pos here]
          case isFalse later =>
            rw [Option.map_eq_some_iff] at found
            obtain ⟨⟨shorter, behind⟩, foundLater, sides⟩ := found
            cases sides
            rw [if_neg later, inductionHypothesis foundLater]
            rfl

/-- A text up to its first pair has that pair at its end. -/
theorem cutPair_upTo {text before after : List Char}
    (found : cutPair first second text = some (before, after)) :
    cutPair first second (before ++ [first, second]) = some (before, []) := by
  induction text generalizing before with
  | nil => cases found
  | cons one rest inductionHypothesis =>
      cases rest with
      | nil => cases found
      | cons two rest =>
          simp only [cutPair] at found
          split at found
          case isTrue here =>
            cases found
            simp [cutPair]
          case isFalse later =>
            rw [Option.map_eq_some_iff] at found
            obtain ⟨⟨shorter, behind⟩, foundLater, sides⟩ := found
            cases sides
            have next := eq_append_of_cutPair foundLater
            have shorterFound := inductionHypothesis foundLater
            cases shorter with
            | nil =>
                cases next
                rw [List.singleton_append, cutPair, if_neg later]
                simp [cutPair]
            | cons char more =>
                cases next
                rw [List.cons_append, List.cons_append, cutPair, if_neg later,
                  ← List.cons_append, shorterFound]
                rfl

/-- A text without a pair, with a character behind it that ends none, has no pair before the
one behind it. -/
theorem cutPair_append_of_none {text : List Char} {char : Char}
    (uncut : cutPair first second text = none) (apart : char ≠ second) (rest : List Char) :
    cutPair first second (text ++ char :: rest) =
      (cutPair first second (char :: rest)).map fun sides => (text ++ sides.1, sides.2) := by
  induction text with
  | nil => exact (congrFun Option.map_id _).symm
  | cons one text inductionHypothesis =>
      cases text with
      | nil =>
          have notHere : (char == second) = false := beq_false_of_ne apart
          rw [List.singleton_append, cutPair, notHere, Bool.and_false,
            if_neg Bool.false_ne_true]
          rfl
      | cons two more =>
          simp only [cutPair, List.cons_append] at uncut inductionHypothesis ⊢
          split at uncut
          case isTrue here => cases uncut
          case isFalse later =>
            rw [Option.map_eq_none_iff] at uncut
            rw [if_neg later, inductionHypothesis uncut, Option.map_map]
            rfl

end CutPair

/-! ## Pieces -/

section Pieces

variable {isMark : Char → Bool}

theorem pieces_ne_nil (text : List Char) : pieces isMark text ≠ [] := by
  cases text with
  | nil => exact List.cons_ne_nil _ _
  | cons char rest =>
      rw [pieces]
      split
      · exact List.cons_ne_nil _ _
      · split <;> exact List.cons_ne_nil _ _

/-- A text without marks is its only piece. -/
theorem pieces_eq_singleton {text : List Char} (absent : ∀ char ∈ text, isMark char = false) :
    pieces isMark text = [text] := by
  induction text with
  | nil => rfl
  | cons char rest inductionHypothesis =>
      obtain ⟨notHere, later⟩ := List.forall_mem_cons.1 absent
      rw [pieces, notHere, if_neg Bool.false_ne_true, inductionHypothesis later]

/-- A mark ends the pieces before it and begins those behind it. -/
theorem pieces_append {mark : Char} (isOne : isMark mark = true) (before after : List Char) :
    pieces isMark (before ++ mark :: after) = pieces isMark before ++ pieces isMark after := by
  induction before with
  | nil =>
      show pieces isMark (mark :: after) = [] :: pieces isMark after
      rw [pieces, if_pos isOne]
  | cons char rest inductionHypothesis =>
      rw [List.cons_append, pieces, pieces]
      split
      case isTrue here => rw [inductionHypothesis, List.cons_append]
      case isFalse later =>
        rw [inductionHypothesis]
        cases found : pieces isMark rest with
        | nil => exact absurd found (pieces_ne_nil rest)
        | cons piece more => rfl

/-- The first piece goes up to the first mark. -/
theorem pieces_eq_cons (text : List Char) :
    pieces isMark text =
      text.takeWhile (fun char => !isMark char) :: (pieces isMark text).tail := by
  induction text with
  | nil => rfl
  | cons char rest inductionHypothesis =>
      rw [pieces, List.takeWhile_cons]
      cases isMark char with
      | true => rfl
      | false =>
          rw [if_neg Bool.false_ne_true, inductionHypothesis]
          rfl

/-- A text without marks in front belongs to the first piece. -/
theorem pieces_append_plain {front : List Char} (absent : ∀ char ∈ front, isMark char = false)
    (rest : List Char) :
    pieces isMark (front ++ rest) =
      (front ++ rest.takeWhile fun char => !isMark char) :: (pieces isMark rest).tail := by
  induction front with
  | nil => exact pieces_eq_cons rest
  | cons char front inductionHypothesis =>
      obtain ⟨notHere, later⟩ := List.forall_mem_cons.1 absent
      rw [List.cons_append, pieces, notHere, if_neg Bool.false_ne_true,
        inductionHypothesis later]
      rfl

/-- A piece has no marks. -/
theorem isMark_of_mem_pieces {text piece : List Char} (member : piece ∈ pieces isMark text) :
    ∀ char ∈ piece, isMark char = false := by
  induction text generalizing piece with
  | nil =>
      obtain rfl := List.mem_singleton.1 member
      exact fun char impossible => nomatch impossible
  | cons char rest inductionHypothesis =>
      rw [pieces] at member
      split at member
      case isTrue here =>
        rcases List.mem_cons.1 member with rfl | later
        · exact fun char impossible => nomatch impossible
        · exact inductionHypothesis later
      case isFalse notHere =>
        rw [pieces_eq_cons] at member inductionHypothesis
        rcases List.mem_cons.1 member with rfl | later
        · exact List.forall_mem_cons.2
            ⟨Bool.eq_false_iff.2 notHere, inductionHypothesis List.mem_cons_self⟩
        · exact inductionHypothesis (List.mem_cons_of_mem _ later)

end Pieces

section MarkedPieces

variable {mark : Char}

/-- Pieces without a mark are found again behind one mark each. -/
theorem pieces_append_flatMap {first : List Char} {rest : List (List Char)}
    (absent : ∀ piece ∈ first :: rest, mark ∉ piece) :
    pieces (· == mark) (first ++ rest.flatMap (mark :: ·)) = first :: rest := by
  induction rest generalizing first with
  | nil =>
      rw [List.flatMap_nil, List.append_nil, pieces_eq_singleton]
      intro char member
      exact beq_false_of_ne fun same => absent first List.mem_cons_self (same ▸ member)
  | cons next rest inductionHypothesis =>
      obtain ⟨absentFirst, absentRest⟩ := List.forall_mem_cons.1 absent
      have single : pieces (· == mark) first = [first] :=
        pieces_eq_singleton fun char member =>
          beq_false_of_ne fun same => absentFirst (same ▸ member)
      have cut : pieces (· == mark) (first ++ mark :: (next ++ rest.flatMap (mark :: ·))) =
          pieces (· == mark) first ++ pieces (· == mark) (next ++ rest.flatMap (mark :: ·)) :=
        @pieces_append (· == mark) mark (beq_self_eq_true mark) _ _
      rw [List.flatMap_cons, List.cons_append, cut, single, inductionHypothesis absentRest,
        List.singleton_append]

variable (mark) in
/-- The pieces of a text, with the marks between them, make up the text, and no mark stands in
a piece. -/
theorem exists_pieces_eq (text : List Char) :
    ∃ first rest, pieces (· == mark) text = first :: rest ∧
      text = first ++ rest.flatMap (mark :: ·) ∧ ∀ piece ∈ first :: rest, mark ∉ piece := by
  induction text with
  | nil => exact ⟨[], [], rfl, rfl, by simp⟩
  | cons char text inductionHypothesis =>
      obtain ⟨first, rest, found, split, absent⟩ := inductionHypothesis
      rw [pieces]
      split
      case isTrue here =>
        obtain rfl : char = mark := beq_iff_eq.1 here
        refine ⟨[], first :: rest, by rw [found], ?_, ?_⟩
        · rw [split]
          rfl
        · exact List.forall_mem_cons.2 ⟨List.not_mem_nil, absent⟩
      case isFalse later =>
        obtain ⟨absentFirst, absentRest⟩ := List.forall_mem_cons.1 absent
        refine ⟨char :: first, rest, by rw [found], by rw [split]; rfl, ?_⟩
        refine List.forall_mem_cons.2 ⟨?_, absentRest⟩
        rw [List.mem_cons, not_or]
        exact ⟨fun same => later (beq_iff_eq.2 same.symm), absentFirst⟩

end MarkedPieces

end RequestFlow.Text
