import RequestFlow.Text.Utf8

/-!
Contract: bytes as letters, digits and two marks.

Owns: the encoding of three bytes as four characters, with equals signs where
bytes are missing at the end.
-/

namespace RequestFlow.Text

def base64Alphabet : List Char :=
  "ABCDEFGHIJKLMNOPQRSTUVWXYZabcdefghijklmnopqrstuvwxyz0123456789+/".toList

/-- The character of six bits. -/
def base64Char (value : Nat) : Char :=
  base64Alphabet.getD (value % 64) '='

def base64 : List UInt8 → List Char
  | one :: two :: three :: rest =>
      let bits := (one.toNat * 256 + two.toNat) * 256 + three.toNat
      base64Char (bits / 0x40000) :: base64Char (bits / 0x1000) :: base64Char (bits / 64) ::
        base64Char bits :: base64 rest
  | [one, two] =>
      let bits := (one.toNat * 256 + two.toNat) * 4
      [base64Char (bits / 0x1000), base64Char (bits / 64), base64Char bits, '=']
  | [one] =>
      let bits := one.toNat * 16
      [base64Char (bits / 64), base64Char bits, '=', '=']
  | [] => []

end RequestFlow.Text
