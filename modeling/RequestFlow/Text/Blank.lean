/-!
Contract: blank characters and trimming.

Owns: the set of blank characters (the Unicode property `White_Space`) and the
three trims over it, on character lists and on strings.

Does not own: the narrower blank sets of document formats, which those formats
define for themselves.
-/

namespace RequestFlow.Text

/-- The characters with the Unicode property `White_Space`. -/
def isBlank (char : Char) : Bool :=
  let code := char.toNat
  (9 ≤ code && code ≤ 13) || code == 0x20 || code == 0x85 || code == 0xA0 ||
    code == 0x1680 || (0x2000 ≤ code && code ≤ 0x200A) || code == 0x2028 ||
    code == 0x2029 || code == 0x202F || code == 0x205F || code == 0x3000

/-- Drops the blanks a text starts with. -/
def trimStart (text : List Char) : List Char :=
  text.dropWhile isBlank

/-- Drops the blanks a text ends with. -/
def trimEnd (text : List Char) : List Char :=
  (text.reverse.dropWhile isBlank).reverse

/-- Drops blanks at both ends. -/
def trim (text : List Char) : List Char :=
  trimEnd (trimStart text)

/-- `trim` on strings. -/
def trimmed (text : String) : String :=
  String.ofList (trim text.toList)

/-- A text with nothing but blanks, the empty text included. -/
def isAllBlank (text : String) : Bool :=
  text.toList.all isBlank

end RequestFlow.Text
