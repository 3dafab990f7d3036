import RequestFlow.Text.Ascii

/-!
Contract: texts of any characters as letters, digits and hyphens.

Owns: the encoding of a text as its ASCII characters, a hyphen, and a number that
tells which other characters stand where, and the way back.

The number is written with digits of varying weight; `bias` follows the sizes of
the numbers written before, so that typical texts come out short.
-/

namespace RequestFlow.Idna.Punycode

def base : Nat := 36
def lowest : Nat := 1
def highest : Nat := 26
def firstCode : Nat := 128
def firstBias : Nat := 72

/-- The threshold of the digit at a position, from which a digit is not the last. -/
def threshold (bias position : Nat) : Nat :=
  min highest (max lowest (base * (position + 1) - bias))

/-- Divides until a number is small, counting the divisions. -/
def shrink : (fuel value : Nat) → Nat × Nat
  | 0, value => (value, 0)
  | fuel + 1, value =>
      if value ≤ (base - lowest) * highest / 2 then (value, 0)
      else
        let (small, count) := shrink fuel (value / (base - lowest))
        (small, count + 1)

/-- The bias after a number was written for a text of `count` characters. -/
def adapt (isFirst : Bool) (value count : Nat) : Nat :=
  let damped := value / (if isFirst then 700 else 2)
  let (small, divisions) := shrink 64 (damped + damped / count)
  base * divisions + (base - lowest + 1) * small / (small + 38)

def digitChar (digit : Nat) : Char :=
  if digit < 26 then Char.ofNat ('a'.toNat + digit) else Char.ofNat ('0'.toNat + (digit - 26))

def digit? (char : Char) : Option Nat :=
  if Text.isDigit char then some (Text.digitValue char + 26)
  else if 'a' ≤ char ∧ char ≤ 'z' then some (char.toNat - 'a'.toNat)
  else if 'A' ≤ char ∧ char ≤ 'Z' then some (char.toNat - 'A'.toNat)
  else none

def isAscii (char : Char) : Bool := char.toNat < 0x80

/-! ## Encoding -/

/-- The digits of a number. -/
def writeNumber (bias : Nat) : (fuel position value : Nat) → List Char
  | 0, _, _ => []
  | fuel + 1, position, value =>
      let limit := threshold bias position
      if value < limit then [digitChar value]
      else digitChar (limit + (value - limit) % (base - limit)) ::
        writeNumber bias fuel (position + 1) ((value - limit) / (base - limit))

/-- The state of an encoding: the distance since the last number, the bias, how
many characters have been told, and the digits so far. -/
structure Encoding where
  distance : Nat
  bias : Nat
  told : Nat
  digits : List Char

/-- Passes one character of the text while the places of `code` are told. -/
def tell (code basicCount : Nat) (state : Encoding) (char : Char) : Encoding :=
  if char.toNat < code then { state with distance := state.distance + 1 }
  else if char.toNat == code then
    ⟨0, adapt (state.told == basicCount) state.distance (state.told + 1), state.told + 1,
      state.digits ++ writeNumber state.bias 64 0 state.distance⟩
  else state

/-- Tells the places of all further characters, from the lowest code up. -/
def tellAll (text : List Char) (basicCount : Nat) : (fuel code : Nat) → Encoding → Encoding
  | 0, _, state => state
  | fuel + 1, code, state =>
      match (text.map Char.toNat).filter (code ≤ ·) with
      | [] => state
      | first :: more =>
          let next := more.foldl min first
          let skipped := { state with distance :=
            state.distance + (next - code) * (state.told + 1) }
          let told := text.foldl (tell next basicCount) skipped
          tellAll text basicCount fuel (next + 1) { told with distance := told.distance + 1 }

def encode (text : List Char) : List Char :=
  let basic := text.filter isAscii
  let digits := (tellAll text basic.length (text.length + 1) firstCode
    ⟨0, firstBias, basic.length, []⟩).digits
  basic ++ (if basic.isEmpty then [] else ['-']) ++ digits

/-! ## Decoding -/

/-- Reads a number and gives the digits after it. -/
def readNumber (bias : Nat) : (position weight value : Nat) → List Char →
    Option (Nat × List Char)
  | _, _, _, [] => none
  | position, weight, value, char :: rest => do
      let digit ← digit? char
      let limit := threshold bias position
      let value := value + digit * weight
      if digit < limit then some (value, rest)
      else readNumber bias (position + 1) (weight * (base - limit)) value rest

/-- Puts characters into a text, one for every number. -/
def readAll : (fuel code place bias : Nat) → (isFirst : Bool) → (text digits : List Char) →
    Option (List Char)
  | 0, _, _, _, _, _, _ => none
  | fuel + 1, code, place, bias, isFirst, text, digits =>
      if digits.isEmpty then some text
      else do
        let (number, rest) ← readNumber bias 0 1 0 digits
        let count := text.length + 1
        let index := place + number
        let code := code + index / count
        if !code.isValidChar then none
        else
          let place := index % count
          readAll fuel code (place + 1) (adapt isFirst number count) false
            (text.take place ++ Char.ofNat code :: text.drop place) rest

/-- The ASCII characters stand before the last hyphen. -/
def decode (text : List Char) : Option (List Char) :=
  let digits := (text.reverse.takeWhile (· != '-')).reverse
  let basic := (text.take (text.length - digits.length)).dropLast
  if basic.all isAscii then
    readAll (digits.length + 1) firstCode 0 firstBias true basic digits
  else none

end RequestFlow.Idna.Punycode
