/-!
Contract: texts as bytes.

Owns: the UTF-8 bytes of a text, and the text of any bytes, where every longest
start of a character that is not completed, and every byte that starts none,
becomes the replacement character.
-/

namespace RequestFlow.Text

/-- The UTF-8 bytes of a text. -/
def bytes (text : List Char) : List UInt8 :=
  text.flatMap String.utf8EncodeChar

def replacementChar : Char := '\uFFFD'

/-- A character that is not complete: the bits so far, how many bytes are to
come, and between which bounds the next one lies. -/
structure PartialChar where
  bits : Nat
  missing : Nat
  low : UInt8
  high : UInt8

/-- What a byte starts: a character of its own, a longer one, or none. Some first
bytes leave out the bytes that would make an overlong form, a surrogate or a code
beyond the last one. -/
def startChar (byte : UInt8) : List Char × Option PartialChar :=
  if byte < 0x80 then ([Char.ofNat byte.toNat], none)
  else if byte < 0xC2 then ([replacementChar], none)
  else if byte < 0xE0 then ([], some ⟨byte.toNat - 0xC0, 1, 0x80, 0xBF⟩)
  else if byte == 0xE0 then ([], some ⟨0, 2, 0xA0, 0xBF⟩)
  else if byte == 0xED then ([], some ⟨0xD, 2, 0x80, 0x9F⟩)
  else if byte < 0xF0 then ([], some ⟨byte.toNat - 0xE0, 2, 0x80, 0xBF⟩)
  else if byte == 0xF0 then ([], some ⟨0, 3, 0x90, 0xBF⟩)
  else if byte < 0xF4 then ([], some ⟨byte.toNat - 0xF0, 3, 0x80, 0xBF⟩)
  else if byte == 0xF4 then ([], some ⟨4, 3, 0x80, 0x8F⟩)
  else ([replacementChar], none)

/-- Takes one byte. A byte that does not fit breaks the character off and starts
anew. -/
def takeByte : Option PartialChar → UInt8 → List Char × Option PartialChar
  | none, byte => startChar byte
  | some begun, byte =>
      if begun.low ≤ byte && byte ≤ begun.high then
        let bits := begun.bits * 64 + byte.toNat % 64
        if begun.missing ≤ 1 then ([Char.ofNat bits], none)
        else ([], some ⟨bits, begun.missing - 1, 0x80, 0xBF⟩)
      else
        let (chars, next) := startChar byte
        (replacementChar :: chars, next)

/-- The text of bytes behind a character that may have begun. -/
def ofBytesFrom : Option PartialChar → List UInt8 → List Char
  | none, [] => []
  | some _, [] => [replacementChar]
  | begun, byte :: rest =>
      let (chars, next) := takeByte begun byte
      chars ++ ofBytesFrom next rest

/-- The text of bytes. -/
def ofBytes (bytes : List UInt8) : List Char :=
  ofBytesFrom none bytes

end RequestFlow.Text
