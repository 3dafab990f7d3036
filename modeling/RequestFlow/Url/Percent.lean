import RequestFlow.Text.Ascii
import RequestFlow.Text.Split
import RequestFlow.Text.Utf8

/-!
Contract: percent encoding, and the form of query pairs built on it.

Owns: the escape of a byte, the sets of characters that the parts of a URL
escape, the encoding and decoding of texts, and the list of pairs that a query
stands for.

Characters beyond ASCII and control characters are escaped everywhere. Percent
signs that start no escape stand for themselves.
-/

namespace RequestFlow.Percent

/-- A hexadecimal digit in upper case. -/
def hexDigit (value : Nat) : Char :=
  if value < 10 then Char.ofNat ('0'.toNat + value) else Char.ofNat ('A'.toNat + (value - 10))

/-- A percent sign and two digits. -/
def escape (byte : UInt8) : List Char :=
  ['%', hexDigit (byte.toNat / 16), hexDigit (byte.toNat % 16)]

/-- Escapes every character but those to keep. -/
def encode (keep : Char → Bool) (text : List Char) : List Char :=
  text.flatMap fun char =>
    if keep char then [char] else (String.utf8EncodeChar char).flatMap escape

/-- The bytes of a text with its escapes undone. -/
def decode : List Char → List UInt8
  | [] => []
  | char :: high :: low :: rest =>
      if char == '%' then
        match Text.hexValue? high, Text.hexValue? low with
        | some high, some low => UInt8.ofNat (high * 16 + low) :: decode rest
        | _, _ => 0x25 :: decode (high :: low :: rest)
      else String.utf8EncodeChar char ++ decode (high :: low :: rest)
  | char :: rest => String.utf8EncodeChar char ++ decode rest

/-! ## The parts of a URL -/

/-- Printable ASCII, the blank included. -/
def isPrintable (char : Char) : Bool :=
  0x20 ≤ char.toNat && char.toNat < 0x7F

/-- Kept by everything: printable characters outside a set. -/
def keepsBut (escaped : List Char) (char : Char) : Bool :=
  isPrintable char && !escaped.contains char

def fragmentSet : List Char := [' ', '"', '<', '>', '\x60']

def pathSet : List Char := fragmentSet ++ ['#', '?', '\x7b', '\x7d']

def userSet : List Char := pathSet ++ ['/', ':', ';', '=', '@', '[', '\\', ']', '^', '|']

def querySet : List Char := [' ', '"', '#', '<', '>', '\'']

/-- Letters, digits and four marks: what a value inside a path keeps. -/
def isUnreserved (char : Char) : Bool :=
  Text.isAlphanumeric char || char == '-' || char == '_' || char == '.' || char == '~'

/-- A value as part of a path: no character of it acts as a mark. -/
def component (text : String) : String :=
  String.ofList (encode isUnreserved text.toList)

/-! ## Pairs of a query -/

def isFormChar (char : Char) : Bool :=
  Text.isAlphanumeric char || char == '*' || char == '-' || char == '.' || char == '_'

/-- A name or value of a pair; blanks become plus signs. -/
def formEncode (text : String) : List Char :=
  text.toList.flatMap fun char =>
    if char == ' ' then ['+'] else encode isFormChar [char]

/-- The text that a name or value stands for. Bytes that make up no characters
are replaced. -/
def formDecode (text : List Char) : String :=
  String.ofList (Text.ofBytes (decode (text.map fun char => if char == '+' then ' ' else char)))

/-- A pair of a name and a value as it stands in a query. -/
def formPair (name value : String) : List Char :=
  formEncode name ++ '=' :: formEncode value

/-- Adds a pair to a query, behind an ampersand unless it is the first one. -/
def appendPair (query : List Char) (name value : String) : List Char :=
  query ++ (if query.isEmpty then [] else ['&']) ++ formPair name value

/-- The pairs of a query. Empty pieces are none, and a piece without an equals
sign is a name with an empty value. -/
def pairs (query : List Char) : List (String × String) :=
  ((Text.pieces (· == '&') query).filter fun piece => !piece.isEmpty).map fun piece =>
    match Text.cut '=' piece with
    | some (name, value) => (formDecode name, formDecode value)
    | none => (formDecode piece, "")

end RequestFlow.Percent
