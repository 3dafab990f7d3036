import RequestFlow.Proofs.Text.Cut
import RequestFlow.Proofs.Text.Utf8
import RequestFlow.Url.Percent

/-!
Contract: what is escaped is read again as it was.

Owns: the round trips of escapes, of texts, and of names and values in a query; the characters
that an escaped text can hold; and the pairs of a query after one is added to it.

The laws ask of the characters to keep that the percent sign is not among them: only then does
every percent sign in the result start an escape.
-/

namespace RequestFlow.Percent

/-! ## Escapes -/

theorem hexValue?_hexDigit : ∀ value < 16, Text.hexValue? (hexDigit value) = some value := by
  decide

theorem isAlphanumeric_hexDigit : ∀ value < 16, Text.isAlphanumeric (hexDigit value) := by
  decide

/-- A character that starts no escape stands for itself. -/
theorem decode_cons_of_ne {char : Char} (rest : List Char) (notPercent : char ≠ '%') :
    decode (char :: rest) = String.utf8EncodeChar char ++ decode rest := by
  match rest with
  | [] => rfl
  | [_] => rfl
  | high :: low :: rest =>
      rw [decode, beq_false_of_ne notPercent, if_neg Bool.false_ne_true]

theorem decode_escape (byte : UInt8) (rest : List Char) :
    decode (escape byte ++ rest) = byte :: decode rest := by
  have bound : byte.toNat < 256 := byte.toNat_lt
  rw [escape]
  simp only [List.cons_append, List.nil_append, decode, beq_self_eq_true, if_true,
    hexValue?_hexDigit (byte.toNat / 16) (by omega),
    hexValue?_hexDigit (byte.toNat % 16) (Nat.mod_lt _ (by decide))]
  rw [Nat.div_add_mod' byte.toNat 16, UInt8.ofNat_toNat]

theorem decode_escapes (bytes : List UInt8) (rest : List Char) :
    decode (bytes.flatMap escape ++ rest) = bytes ++ decode rest := by
  induction bytes with
  | nil => rfl
  | cons byte bytes inductionHypothesis =>
      rw [List.flatMap_cons, List.append_assoc, decode_escape, inductionHypothesis,
        List.cons_append]

/-! ## Texts -/

section Encode

variable {keep : Char → Bool}

theorem encode_cons (char : Char) (rest : List Char) :
    encode keep (char :: rest) =
      (if keep char then [char] else (String.utf8EncodeChar char).flatMap escape) ++
        encode keep rest := List.flatMap_cons

theorem encode_append (first second : List Char) :
    encode keep (first ++ second) = encode keep first ++ encode keep second :=
  List.flatMap_append

/-- A text of characters to keep is not changed. -/
theorem encode_eq_self {text : List Char} (kept : ∀ char ∈ text, keep char = true) :
    encode keep text = text := by
  induction text with
  | nil => rfl
  | cons char rest inductionHypothesis =>
      obtain ⟨here, later⟩ := List.forall_mem_cons.1 kept
      rw [encode_cons, if_pos here, inductionHypothesis later]
      rfl

/-- An escaped text stands for the bytes of the text, whatever comes behind it. -/
theorem decode_encode_append (escapesPercent : keep '%' = false) (text rest : List Char) :
    decode (encode keep text ++ rest) = Text.bytes text ++ decode rest := by
  induction text with
  | nil => rfl
  | cons char text inductionHypothesis =>
      rw [encode_cons, List.append_assoc, Text.bytes_cons, List.append_assoc]
      split
      case isTrue kept =>
        have notPercent : char ≠ '%' := by
          rintro rfl
          rw [escapesPercent] at kept
          cases kept
        rw [List.singleton_append, decode_cons_of_ne _ notPercent, inductionHypothesis]
      case isFalse escaped => rw [decode_escapes, inductionHypothesis]

theorem decode_encode (escapesPercent : keep '%' = false) (text : List Char) :
    decode (encode keep text) = Text.bytes text := by
  have whole := decode_encode_append escapesPercent text []
  rwa [List.append_nil, decode, List.append_nil] at whole

/-- An escaped text holds percent signs and characters to keep, if letters and digits are to
be kept. -/
theorem keep_or_percent_of_mem (keepsAlphanumeric : ∀ char, Text.isAlphanumeric char → keep char)
    {text : List Char} {char : Char} (member : char ∈ encode keep text) :
    keep char ∨ char = '%' := by
  rw [encode, List.mem_flatMap] at member
  obtain ⟨source, -, written⟩ := member
  split at written
  case isTrue kept =>
    rw [List.mem_singleton] at written
    exact .inl (written ▸ kept)
  case isFalse escaped =>
    rw [List.mem_flatMap] at written
    obtain ⟨byte, -, digit⟩ := written
    have bound : byte.toNat < 256 := byte.toNat_lt
    simp only [escape, List.mem_cons, List.not_mem_nil, or_false] at digit
    rcases digit with rfl | rfl | rfl
    · exact .inr rfl
    · exact .inl (keepsAlphanumeric _ (isAlphanumeric_hexDigit _ (by omega)))
    · exact .inl (keepsAlphanumeric _ (isAlphanumeric_hexDigit _ (Nat.mod_lt _ (by decide))))

end Encode

/-! ## Names and values of a query -/

theorem isFormChar_of_isAlphanumeric (char : Char) (alphanumeric : Text.isAlphanumeric char) :
    isFormChar char := by
  simp [isFormChar, alphanumeric]

/-- The characters of a name or value that are not escaped, blanks among them. -/
def isFormPlain (char : Char) : Bool := char == ' ' || isFormChar char

/-- A plus sign read as the blank that it stands for. -/
def readPlus (char : Char) : Char := if char == '+' then ' ' else char

theorem map_readPlus_encode (text : List Char) :
    (encode isFormChar text).map readPlus = encode isFormChar text := by
  have plain : ∀ char ∈ encode isFormChar text, readPlus char = char := by
    intro char member
    have noPlus : char ≠ '+' := by
      rintro rfl
      have allowed := keep_or_percent_of_mem isFormChar_of_isAlphanumeric member
      revert allowed
      decide
    rw [readPlus, beq_false_of_ne noPlus, if_neg Bool.false_ne_true]
  rw [List.map_congr_left plain, List.map_id']

theorem map_readPlus_formEncode_char (char : Char) :
    (if char == ' ' then ['+'] else encode isFormChar [char]).map readPlus =
      encode isFormPlain [char] := by
  by_cases isSpace : char = ' '
  · rw [isSpace]
    rfl
  · have sameChoice : encode isFormPlain [char] = encode isFormChar [char] := by
      simp [encode, isFormPlain, isSpace]
    rw [beq_false_of_ne isSpace, if_neg Bool.false_ne_true, map_readPlus_encode, sameChoice]

/-- Blanks are written as plus signs, and a name or value holds no other plus sign. -/
theorem map_readPlus_formEncode (text : String) :
    (formEncode text).map readPlus = encode isFormPlain text.toList := by
  rw [formEncode]
  induction text.toList with
  | nil => rfl
  | cons char rest inductionHypothesis =>
      rw [List.flatMap_cons, List.map_append, inductionHypothesis,
        map_readPlus_formEncode_char, ← encode_append, List.singleton_append]

theorem formDecode_formEncode (text : String) : formDecode (formEncode text) = text := by
  have read : formDecode (formEncode text) =
      String.ofList (Text.ofBytes (decode ((formEncode text).map readPlus))) := rfl
  rw [read, map_readPlus_formEncode, decode_encode (by decide), Text.ofBytes_bytes,
    String.ofList_toList]

/-- A name or value holds none of the marks between pairs. -/
theorem ne_mark_of_mem_formEncode {text : String} {char : Char}
    (member : char ∈ formEncode text) : char ≠ '&' ∧ char ≠ '=' := by
  have allowed : char = '+' ∨ isFormChar char ∨ char = '%' := by
    rw [formEncode, List.mem_flatMap] at member
    obtain ⟨source, -, written⟩ := member
    split at written
    · exact .inl (List.mem_singleton.1 written)
    · exact .inr (keep_or_percent_of_mem isFormChar_of_isAlphanumeric written)
  constructor
  · rintro rfl
    revert allowed
    decide
  · rintro rfl
    revert allowed
    decide

/-! ## Pairs -/

/-- The pair that a piece of a query stands for. -/
def pairOf (piece : List Char) : String × String :=
  match Text.cut '=' piece with
  | some (name, value) => (formDecode name, formDecode value)
  | none => (formDecode piece, "")

theorem pairs_eq (query : List Char) :
    pairs query =
      ((Text.pieces (· == '&') query).filter fun piece => !piece.isEmpty).map pairOf := rfl

theorem pairOf_formPair (name value : String) : pairOf (formPair name value) = (name, value) := by
  have noEquals : '=' ∉ formEncode name := fun member => (ne_mark_of_mem_formEncode member).2 rfl
  rw [pairOf, formPair, Text.cut_of_notMem _ noEquals]
  simp only [formDecode_formEncode]

/-- A pair is one piece of a query, and no empty one. -/
theorem pairs_formPair (name value : String) : pairs (formPair name value) = [(name, value)] := by
  have onePiece : Text.pieces (· == '&') (formPair name value) = [formPair name value] := by
    apply Text.pieces_eq_singleton
    intro char member
    rw [formPair, List.mem_append, List.mem_cons] at member
    rw [beq_eq_false_iff_ne]
    rcases member with inName | rfl | inValue
    · exact (ne_mark_of_mem_formEncode inName).1
    · decide
    · exact (ne_mark_of_mem_formEncode inValue).1
  have notEmpty : (formPair name value).isEmpty = false := by simp [formPair]
  rw [pairs_eq, onePiece]
  simp [notEmpty, pairOf_formPair]

/-- A query with one more pair has the pairs of before, as they were, and that one. -/
theorem pairs_appendPair (query : List Char) (name value : String) :
    pairs (appendPair query name value) = pairs query ++ [(name, value)] := by
  cases query with
  | nil => exact pairs_formPair name value
  | cons char rest =>
      have joined : appendPair (char :: rest) name value =
          (char :: rest) ++ '&' :: formPair name value := by
        simp [appendPair]
      rw [joined, pairs_eq, Text.pieces_append rfl, List.filter_append, List.map_append,
        ← pairs_eq, ← pairs_eq, pairs_formPair]

end RequestFlow.Percent
