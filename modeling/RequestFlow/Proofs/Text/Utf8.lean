import RequestFlow.Text.Utf8

/-!
Contract: the bytes of a text stand for that text.

Owns: the walk over the bytes of one character, from the first byte to the last one, and the
round trip of texts.

Does not own: bytes that are no text. Replacement characters stand for them.
-/

namespace RequestFlow.Text

/-! ## Bytes of a character that has begun -/

section Begun

variable {bits : Nat} {low high byte : UInt8}

theorem takes_iff : (low ≤ byte && byte ≤ high) = true ↔
    low.toNat ≤ byte.toNat ∧ byte.toNat ≤ high.toNat := by
  simp [UInt8.le_iff_toNat_le]

/-- A byte that fits is put behind the bits so far, while more are to come. -/
theorem ofBytesFrom_inner (missing : Nat) (rest : List UInt8)
    (fits : low.toNat ≤ byte.toNat ∧ byte.toNat ≤ high.toNat) :
    ofBytesFrom (some ⟨bits, missing + 2, low, high⟩) (byte :: rest) =
      ofBytesFrom (some ⟨bits * 64 + byte.toNat % 64, missing + 1, 0x80, 0xBF⟩) rest := by
  have more : ¬ missing + 2 ≤ 1 := by omega
  rw [ofBytesFrom, takeByte]
  simp only [takes_iff.2 fits, if_pos, if_neg more]
  rfl

/-- The last byte completes the character. -/
theorem ofBytesFrom_last (rest : List UInt8)
    (fits : low.toNat ≤ byte.toNat ∧ byte.toNat ≤ high.toNat) :
    ofBytesFrom (some ⟨bits, 1, low, high⟩) (byte :: rest) =
      Char.ofNat (bits * 64 + byte.toNat % 64) :: ofBytesFrom none rest := by
  rw [ofBytesFrom, takeByte]
  simp only [takes_iff.2 fits, if_pos]
  rfl

end Begun

/-! ## First bytes -/

theorem toNat_byte {value : Nat} (small : value < 256) : (UInt8.ofNat value).toNat = value :=
  UInt8.toNat_ofNat_of_lt' small

/-- What a byte starts, by its number. -/
theorem startChar_eq (byte : UInt8) :
    startChar byte =
      if byte.toNat < 0x80 then ([Char.ofNat byte.toNat], none)
      else if byte.toNat < 0xC2 then ([replacementChar], none)
      else if byte.toNat < 0xE0 then ([], some ⟨byte.toNat - 0xC0, 1, 0x80, 0xBF⟩)
      else if byte.toNat = 0xE0 then ([], some ⟨0, 2, 0xA0, 0xBF⟩)
      else if byte.toNat = 0xED then ([], some ⟨0xD, 2, 0x80, 0x9F⟩)
      else if byte.toNat < 0xF0 then ([], some ⟨byte.toNat - 0xE0, 2, 0x80, 0xBF⟩)
      else if byte.toNat = 0xF0 then ([], some ⟨0, 3, 0x90, 0xBF⟩)
      else if byte.toNat < 0xF4 then ([], some ⟨byte.toNat - 0xF0, 3, 0x80, 0xBF⟩)
      else if byte.toNat = 0xF4 then ([], some ⟨4, 3, 0x80, 0x8F⟩)
      else ([replacementChar], none) := by
  simp only [startChar, UInt8.lt_iff_toNat_lt, beq_iff_eq, ← UInt8.toNat_inj]
  rfl

/-- The first of two bytes. -/
theorem startChar_two {code : Nat} (long : 0x80 ≤ code) (short : code ≤ 0x7FF) :
    startChar (UInt8.ofNat (code / 64 % 32 + 192)) = ([], some ⟨code / 64, 1, 0x80, 0xBF⟩) := by
  have lead : (UInt8.ofNat (code / 64 % 32 + 192)).toNat = code / 64 + 192 := by
    rw [toNat_byte (by omega)]
    omega
  rw [startChar_eq, lead, if_neg (by omega), if_neg (by omega), if_pos (by omega),
    Nat.add_sub_cancel]

/-- The first of three bytes. The bounds on the next one admit it. -/
theorem startChar_three {code : Nat} (long : 0x800 ≤ code) (short : code ≤ 0xFFFF)
    (valid : code.isValidChar) :
    ∃ low high : UInt8, startChar (UInt8.ofNat (code / 4096 % 16 + 224)) =
        ([], some ⟨code / 4096, 2, low, high⟩) ∧
      low.toNat ≤ code / 64 % 64 + 128 ∧ code / 64 % 64 + 128 ≤ high.toNat := by
  have lead : (UInt8.ofNat (code / 4096 % 16 + 224)).toNat = code / 4096 + 224 := by
    rw [toNat_byte (by omega)]
    omega
  rw [startChar_eq, lead, if_neg (by omega), if_neg (by omega), if_neg (by omega)]
  by_cases isLeast : code / 4096 = 0
  · rw [if_pos (by omega), isLeast]
    exact ⟨0xA0, 0xBF, rfl, show 160 ≤ _ by omega, show _ ≤ 191 by omega⟩
  · rw [if_neg (by omega)]
    by_cases beforeSurrogates : code / 4096 = 13
    · rw [if_pos (by omega), beforeSurrogates]
      exact ⟨0x80, 0x9F, rfl, show 128 ≤ _ by omega, show _ ≤ 159 by omega⟩
    · rw [if_neg (by omega), if_pos (by omega), Nat.add_sub_cancel]
      exact ⟨0x80, 0xBF, rfl, show 128 ≤ _ by omega, show _ ≤ 191 by omega⟩

/-- The first of four bytes. The bounds on the next one admit it. -/
theorem startChar_four {code : Nat} (long : 0x10000 ≤ code) (valid : code.isValidChar) :
    ∃ low high : UInt8, startChar (UInt8.ofNat (code / 262144 % 8 + 240)) =
        ([], some ⟨code / 262144, 3, low, high⟩) ∧
      low.toNat ≤ code / 4096 % 64 + 128 ∧ code / 4096 % 64 + 128 ≤ high.toNat := by
  have lead : (UInt8.ofNat (code / 262144 % 8 + 240)).toNat = code / 262144 + 240 := by
    rw [toNat_byte (by omega)]
    omega
  rw [startChar_eq, lead, if_neg (by omega), if_neg (by omega), if_neg (by omega),
    if_neg (by omega), if_neg (by omega), if_neg (by omega)]
  by_cases isLeast : code / 262144 = 0
  · rw [if_pos (by omega), isLeast]
    exact ⟨0x90, 0xBF, rfl, show 144 ≤ _ by omega, show _ ≤ 191 by omega⟩
  · rw [if_neg (by omega)]
    by_cases isLast : code / 262144 = 4
    · rw [if_neg (by omega), if_pos (by omega), isLast]
      exact ⟨0x80, 0x8F, rfl, show 128 ≤ _ by omega, show _ ≤ 143 by omega⟩
    · rw [if_pos (by omega), Nat.add_sub_cancel]
      exact ⟨0x80, 0xBF, rfl, show 128 ≤ _ by omega, show _ ≤ 191 by omega⟩

/-! ## Texts -/

theorem ofBytesFrom_none_cons (byte : UInt8) (rest : List UInt8) :
    ofBytesFrom none (byte :: rest) =
      (startChar byte).1 ++ ofBytesFrom (startChar byte).2 rest := rfl

/-- The bytes of a character stand for it. -/
theorem ofBytesFrom_char (char : Char) (rest : List UInt8) :
    ofBytesFrom none (String.utf8EncodeChar char ++ rest) = char :: ofBytesFrom none rest := by
  have isChar : Char.ofNat char.val.toNat = char := Char.ofNat_toNat char
  have valid : char.val.toNat.isValidChar := char.valid
  simp only [String.utf8EncodeChar]
  generalize char.val.toNat = code at isChar valid ⊢
  have trailing : ∀ part, (UInt8.ofNat (part % 64 + 128)).toNat = part % 64 + 128 := fun part =>
    toNat_byte (by omega)
  have tail : ∀ part, (0x80 : UInt8).toNat ≤ (UInt8.ofNat (part % 64 + 128)).toNat ∧
      (UInt8.ofNat (part % 64 + 128)).toNat ≤ (0xBF : UInt8).toNat := by
    intro part
    rw [trailing]
    exact ⟨Nat.le_add_left 128 _, show _ ≤ 191 by omega⟩
  split
  case isTrue one =>
    rw [List.singleton_append, ofBytesFrom_none_cons, startChar_eq, toNat_byte (by omega),
      if_pos (by omega), isChar]
    rfl
  case isFalse notOne =>
    split
    case isTrue two =>
      rw [List.cons_append, ofBytesFrom_none_cons, startChar_two (by omega) two,
        List.nil_append, List.singleton_append, ofBytesFrom_last rest (tail code), trailing,
        show code / 64 * 64 + (code % 64 + 128) % 64 = code by omega, isChar]
    case isFalse notTwo =>
      split
      case isTrue three =>
        obtain ⟨low, high, started, fits⟩ := startChar_three (by omega) three valid
        rw [← trailing] at fits
        rw [List.cons_append, ofBytesFrom_none_cons, started, List.nil_append,
          List.cons_append, ofBytesFrom_inner 0 _ fits, List.singleton_append,
          ofBytesFrom_last rest (tail code), trailing, trailing,
          show (code / 4096 * 64 + (code / 64 % 64 + 128) % 64) * 64 + (code % 64 + 128) % 64 =
            code by omega, isChar]
      case isFalse notThree =>
        obtain ⟨low, high, started, fits⟩ := startChar_four (by omega) valid
        rw [← trailing] at fits
        rw [List.cons_append, ofBytesFrom_none_cons, started, List.nil_append,
          List.cons_append, ofBytesFrom_inner 1 _ fits, List.cons_append,
          ofBytesFrom_inner 0 _ (tail (code / 64)), List.singleton_append,
          ofBytesFrom_last rest (tail code), trailing, trailing, trailing,
          show ((code / 262144 * 64 + (code / 4096 % 64 + 128) % 64) * 64 +
            (code / 64 % 64 + 128) % 64) * 64 + (code % 64 + 128) % 64 = code by omega, isChar]

theorem bytes_cons (char : Char) (rest : List Char) :
    bytes (char :: rest) = String.utf8EncodeChar char ++ bytes rest := List.flatMap_cons

/-- The bytes of a text stand for it. -/
theorem ofBytes_bytes (text : List Char) : ofBytes (bytes text) = text := by
  induction text with
  | nil => rfl
  | cons char rest inductionHypothesis =>
      rw [bytes_cons, ofBytes, ofBytesFrom_char]
      exact congrArg (char :: ·) inductionHypothesis

end RequestFlow.Text
