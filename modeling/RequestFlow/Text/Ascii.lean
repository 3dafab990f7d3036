/-!
Contract: letters and digits of the ASCII range.

Owns: case mapping, caseless comparison and digit values restricted to ASCII.
Characters outside ASCII are never changed and never equal to another one, which
is what protocol texts (header names, methods, schemes) call for.
-/

namespace RequestFlow.Text

def asciiLower (char : Char) : Char :=
  if 'A' ≤ char ∧ char ≤ 'Z' then Char.ofNat (char.toNat + 32) else char

def asciiUpper (char : Char) : Char :=
  if 'a' ≤ char ∧ char ≤ 'z' then Char.ofNat (char.toNat - 32) else char

def lower (text : String) : String :=
  String.ofList (text.toList.map asciiLower)

def upper (text : String) : String :=
  String.ofList (text.toList.map asciiUpper)

/-- Equality up to the case of ASCII letters. -/
def sameIgnoringCase (left right : String) : Bool :=
  lower left == lower right

def isDigit (char : Char) : Bool :=
  '0' ≤ char && char ≤ '9'

def isLetter (char : Char) : Bool :=
  ('a' ≤ char && char ≤ 'z') || ('A' ≤ char && char ≤ 'Z')

def isAlphanumeric (char : Char) : Bool :=
  isLetter char || isDigit char

/-- The value of a decimal digit; zero for any other character. -/
def digitValue (char : Char) : Nat :=
  char.toNat - '0'.toNat

/-- The value of a hexadecimal digit of either case. -/
def hexValue? (char : Char) : Option Nat :=
  if isDigit char then some (digitValue char)
  else if 'a' ≤ char ∧ char ≤ 'f' then some (char.toNat - 'a'.toNat + 10)
  else if 'A' ≤ char ∧ char ≤ 'F' then some (char.toNat - 'A'.toNat + 10)
  else none

/-- The number written by decimal digits, read from the left. -/
def digitsValue (digits : List Char) : Nat :=
  digits.foldl (fun value digit => value * 10 + digitValue digit) 0

/-- The digits of a number in a base up to sixteen, letters in lower case. -/
def natDigits (base value : Nat) : List Char :=
  Nat.toDigits base value

/-- Decimal text of a natural number. -/
def natText (value : Nat) : String :=
  String.ofList (natDigits 10 value)

/-- Decimal text of an integer: a minus sign for negative ones, none otherwise. -/
def intText : Int → String
  | .ofNat value => natText value
  | .negSucc value => "-" ++ natText (value + 1)

end RequestFlow.Text
