import RequestFlow.Text.Ascii
import RequestFlow.Text.Blank
import RequestFlow.Text.Split

/-!
Contract: tables of character data written as texts.

Owns: the rows of such a text, and the membership of a character in a table of
ranges. Rows stand between blanks, fields between colons, and the numbers of a
field, in hexadecimal digits, between commas.
-/

namespace RequestFlow.CharTable

/-- A row: its fields, each a list of numbers. -/
abbrev Row := List (List Nat)

def number (digits : List Char) : Nat :=
  digits.foldl (fun value digit => value * 16 + (Text.hexValue? digit).getD 0) 0

def row (text : List Char) : Row :=
  (Text.pieces (· == ':') text).map fun field =>
    (Text.pieces (· == ',') field).map number

/-- The rows of a table, in their order. -/
def rows (text : String) : List Row :=
  ((Text.pieces Text.isBlank text.toList).filter fun piece => !piece.isEmpty).map row

/-- A range of characters by its first and last code. -/
structure CharRange where
  first : Nat
  last : Nat
deriving DecidableEq, Repr

/-- A range from a row; a row of one field is a range of one character. -/
def CharRange.ofRow : Row → CharRange
  | [first] :: [last] :: _ => ⟨first, last⟩
  | [only] :: _ => ⟨only, only⟩
  | _ => ⟨1, 0⟩

def ranges (text : String) : List CharRange :=
  (rows text).map CharRange.ofRow

def isIn (table : List CharRange) (char : Char) : Bool :=
  table.any fun range => range.first ≤ char.toNat && char.toNat ≤ range.last

end RequestFlow.CharTable
