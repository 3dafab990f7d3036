import RequestFlow.Decimal.Literal
import RequestFlow.Text.Split

/-!
Contract: what a scalar without quotes means in a YAML document.

Owns: the words for null and the booleans, the spellings of integers (decimal,
hexadecimal, octal and binary) and of floating-point numbers, and the order in
which they are tried. Whatever fits none of them is a text.

Leading zeros before further digits make a text, so that codes such as `007`
keep their zeros.
-/

namespace RequestFlow.Document

open RequestFlow.Decimal (Double)

/-- The meaning of a scalar. `infinite` covers the infinities and the missing
number, which JSON has no literal for; `vast` integers go beyond 64 bits. -/
inductive ScalarMeaning where
  | null
  | bool (value : Bool)
  | int (value : Int)
  | double (value : Double)
  | infinite
  | vast
  | text
deriving DecidableEq, Repr

namespace Scalar

def isNullWord (text : String) : Bool :=
  ["null", "Null", "NULL", "~"].contains text

def boolWord? (text : String) : Option Bool :=
  if ["true", "True", "TRUE"].contains text then some true
  else if ["false", "False", "FALSE"].contains text then some false
  else none

/-- Digits of a base, at least one, with nothing else between them. -/
def digitsIn? (base : Nat) (digits : List Char) : Option Nat :=
  if digits.isEmpty then none
  else
    digits.foldl (fun value? digit => do
      let value ← value?
      let next ← Text.hexValue? digit
      if next < base then some (value * base + next) else none) (some 0)

/-- A radix mark such as `0x` with the digits after it. -/
def radixDigits? (text : List Char) : Option Nat :=
  match text with
  | '0' :: 'x' :: digits => digitsIn? 16 digits
  | '0' :: 'o' :: digits => digitsIn? 8 digits
  | '0' :: 'b' :: digits => digitsIn? 2 digits
  | _ => none

/-- Zeros before further digits: such a text is no number. -/
def isZeroPadded (text : List Char) : Bool :=
  let unsigned :=
    match text with
    | '-' :: rest => rest
    | '+' :: rest => rest
    | _ => text
  match unsigned with
  | '0' :: rest => !rest.isEmpty && rest.all Text.isDigit
  | _ => false

/-- The integer a text spells, of any size: at most one sign, then a radix mark
with digits or plain decimal digits. -/
def integer? (text : List Char) : Option Int :=
  let magnitude? (unsigned : List Char) : Option Nat :=
    match radixDigits? unsigned with
    | some value => some value
    | none => if isZeroPadded text then none else digitsIn? 10 unsigned
  match text with
  | '-' :: unsigned => (magnitude? unsigned).map fun value => -(value : Int)
  | '+' :: unsigned => (magnitude? unsigned).map Int.ofNat
  | _ => (magnitude? text).map Int.ofNat

/-- Digits, an optional point, and an optional exponent, without a sign. -/
def decimal? (text : List Char) : Option (List Char × Int) :=
  let whole := text.takeWhile Text.isDigit
  let rest := text.dropWhile Text.isDigit
  let (fraction, rest) :=
    match rest with
    | '.' :: more => (more.takeWhile Text.isDigit, more.dropWhile Text.isDigit)
    | _ => ([], rest)
  let exponent? : Option Int :=
    match rest with
    | [] => some 0
    | mark :: more =>
        if mark != 'e' && mark != 'E' then none
        else
          match more with
          | '-' :: digits => (digitsIn? 10 digits).map fun value => -(value : Int)
          | '+' :: digits => (digitsIn? 10 digits).map Int.ofNat
          | digits => (digitsIn? 10 digits).map Int.ofNat
  if whole.isEmpty && fraction.isEmpty then none
  else exponent?.map fun exponent => (whole ++ fraction, exponent - fraction.length)

/-- The finite floating-point number a text spells. -/
def float? (text : List Char) : Option Double :=
  let finite (negative : Bool) (unsigned : List Char) : Option Double := do
    let (digits, exponent) ← decimal? unsigned
    Double.ofDecimal negative (Text.digitsValue digits) exponent
  match text with
  | '-' :: unsigned => finite true unsigned
  | '+' :: unsigned => finite false unsigned
  | _ => finite false text

def isInfiniteWord (text : String) : Bool :=
  [".inf", ".Inf", ".INF", "+.inf", "+.Inf", "+.INF", "-.inf", "-.Inf", "-.INF",
    ".nan", ".NaN", ".NAN"].contains text

/-- The number of values of 64 bits. -/
def words : Int := 0x10000000000000000

/-- The meaning of an integer by its size. Integers beyond 128 bits are read as
floating-point numbers. -/
def integerMeaning? (value : Int) : Option ScalarMeaning :=
  if -words ≤ 2 * value ∧ value < words then some (.int value)
  else if -(words * words) ≤ 2 * value ∧ value < words * words then some .vast
  else none

def floatMeaning? (text : String) : Option ScalarMeaning :=
  if isInfiniteWord text then some .infinite
  else (float? text.toList).map .double

/-- The meaning of a scalar that carries neither quotes nor a type mark. -/
def meaning (text : String) : ScalarMeaning :=
  if text.isEmpty || isNullWord text then .null
  else
    match boolWord? text with
    | some value => .bool value
    | none =>
      match (integer? text.toList).bind integerMeaning? with
      | some found => found
      | none =>
        if isZeroPadded text.toList then .text
        else (floatMeaning? text).getD .text

/-- The type marks of the core types. -/
def coreTag (name : String) : String :=
  "tag:yaml.org,2002:" ++ name

/-- The meaning of a scalar with a type mark, whatever its quoting; `none` when
text and mark do not agree. A mark that names no core type leaves a text. -/
def taggedMeaning? (tag text : String) : Option ScalarMeaning :=
  if tag == coreTag "bool" then (boolWord? text).map .bool
  else if tag == coreTag "int" then (integer? text.toList).bind integerMeaning?
  else if tag == coreTag "float" then floatMeaning? text
  else if tag == coreTag "null" then
    if isNullWord text then some .null else none
  else some .text

end Scalar

end RequestFlow.Document
