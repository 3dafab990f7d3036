import RequestFlow.Decimal.Double
import RequestFlow.Json.Basic
import RequestFlow.Text.Ascii

/-!
Contract: the number that a decimal literal denotes.

Owns: the split between integers and doubles, and the rounding rule for doubles.
A literal without fraction and exponent is an integer when it fits in 64 bits.
Every other literal is read as its leading digits, as many as fit in 64 bits,
times a power of ten: the digits are rounded to a double, the power of ten is a
double, and one more rounding combines the two.

Does not own: which texts are literals. Readers take a text apart into a
`Literal` and ask for its value.
-/

namespace RequestFlow.Decimal

/-- The parts of a decimal literal: digits before and after the point, and the
sign and digits of the exponent. -/
structure Literal where
  negative : Bool
  whole : List Char
  fraction : List Char
  exponent : Option (Bool × List Char)
deriving Repr

/-- The largest digit string value that is still kept exactly. -/
def maxSignificand : Nat := 0xffffffffffffffff

/-- Appends digits to a significand until one would overflow it; the second
component counts the digits taken. -/
def absorb (significand : Nat) : List Char → Nat × Nat
  | [] => (significand, 0)
  | digit :: rest =>
      let longer := significand * 10 + Text.digitValue digit
      if longer > maxSignificand then (significand, 0)
      else
        let (final, taken) := absorb longer rest
        (final, taken + 1)

/-- Scales by powers of ten in steps of at most `308` places. A number that
reached zero stays zero, so few steps are ever needed. -/
def scaleDown (value : Double) : Nat → Nat → Option Double
  | 0, _ => some value
  | fuel + 1, places =>
      if value.isZero then some value
      else if places ≤ 308 then do value.divide (← Double.ofNat (powerOfTen places))
      else do
        let smaller ← value.divide (← Double.ofNat (powerOfTen 308))
        scaleDown smaller fuel (places - 308)

/-- `significand · 10 ^ exponent` with two roundings; `none` beyond the largest double. -/
def scaled (negative : Bool) (significand : Nat) (exponent : Int) : Option Double := do
  let value ← Double.ofNat significand
  let magnitude ←
    match exponent with
    | .ofNat places =>
        if value.isZero then some value
        else if places > 308 then none
        else value.times (← Double.ofNat (powerOfTen places))
    | .negSucc places => scaleDown value 8 (places + 1)
  some (if negative then magnitude.negate else magnitude)

/-- The largest exponent that is read as a number. -/
def maxExponent : Nat := 0x7fffffff

/-- The largest magnitude of a negative integer. -/
def maxNegative : Nat := 0x8000000000000000

/-- The number that a literal denotes; `none` when it is beyond the range of doubles. -/
def Literal.value? (literal : Literal) : Option Number :=
  let (lead, taken) := absorb 0 literal.whole
  let dropped := literal.whole.length - taken
  if dropped == 0 && literal.fraction.isEmpty && literal.exponent.isNone then
    if !literal.negative then some (.int lead)
    else if lead == 0 || lead > maxNegative then
      (scaled true lead 0).map .double
    else some (.int (-(lead : Int)))
  else
    let (significand, decimals) := absorb lead literal.fraction
    let shift : Int := (dropped : Int) - decimals
    match literal.exponent with
    | none => (scaled literal.negative significand shift).map .double
    | some (exponentNegative, digits) =>
        let exponent := Text.digitsValue digits
        if exponent > maxExponent then
          if significand != 0 && !exponentNegative then none
          else some (.double (Double.zero literal.negative))
        else
          let signed : Int := if exponentNegative then -(exponent : Int) else exponent
          (scaled literal.negative significand (shift + signed)).map .double

end RequestFlow.Decimal
