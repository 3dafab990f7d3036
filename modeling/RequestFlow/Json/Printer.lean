import RequestFlow.Decimal.Shortest
import RequestFlow.Json.Basic

/-!
Contract: the compact text of a JSON value, and the plain text of a value.

Owns: escapes, number texts and separators. `Json.compact` puts no blanks
between tokens and escapes only the quote, the backslash and the characters
below the blank. `Json.plainText` is the text a value stands for inside a larger
text: strings as they are, null as nothing, everything else compact.
-/

namespace RequestFlow.Json

open RequestFlow.Decimal (Style Double)

/-- Doubles keep their point from `1e-5` up to below `1e16`. -/
def doubleStyle : Style := ⟨-5, 16⟩

def numberText : Number → String
  | .int value => Text.intText value
  | .double value => value.text doubleStyle

/-- Four hexadecimal digits. -/
def fourHex (code : Nat) : List Char :=
  let digits := Text.natDigits 16 code
  List.replicate (4 - digits.length) '0' ++ digits

/-- One character between quotes. -/
def escapeChar (char : Char) : List Char :=
  if char == '"' then ['\\', '"']
  else if char == '\\' then ['\\', '\\']
  else if char.toNat < 0x20 then
    match char with
    | '\n' => ['\\', 'n']
    | '\r' => ['\\', 'r']
    | '\t' => ['\\', 't']
    | _ =>
      if char.toNat == 8 then ['\\', 'b']
      else if char.toNat == 12 then ['\\', 'f']
      else '\\' :: 'u' :: fourHex char.toNat
  else [char]

/-- A text between quotes. -/
def quoted (text : String) : String :=
  String.ofList ('"' :: text.toList.flatMap escapeChar ++ ['"'])

mutual

def compact : Json → String
  | .null => "null"
  | .bool true => "true"
  | .bool false => "false"
  | .number value => numberText value
  | .string value => quoted value
  | .array items => "[" ++ compactItems items ++ "]"
  | .object members => "\x7b" ++ compactMembers members ++ "\x7d"

def compactItems : List Json → String
  | [] => ""
  | [item] => compact item
  | item :: rest => compact item ++ "," ++ compactItems rest

def compactMembers : List (String × Json) → String
  | [] => ""
  | [(key, value)] => quoted key ++ ":" ++ compact value
  | (key, value) :: rest => quoted key ++ ":" ++ compact value ++ "," ++ compactMembers rest

end

/-- The text a value stands for inside a larger text. -/
def plainText : Json → String
  | .string value => value
  | .null => ""
  | value => compact value

end RequestFlow.Json
