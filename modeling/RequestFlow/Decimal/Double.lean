/-!
Contract: finite numbers of the 64-bit binary format, in exact integer arithmetic.

Owns: the view of a bit pattern as `± m · 2 ^ q`, rounding of a ratio of natural
numbers to the nearest representable number (ties go to the even neighbour), and
multiplication and division by way of that rounding.

Does not own: decimal digits, which `Decimal.Shortest` writes and the document
readers read.
-/

namespace RequestFlow.Decimal

/-- A number given by its 64-bit pattern: sign, eleven exponent bits, and
fifty-two fraction bits. -/
structure Double where
  bits : UInt64
deriving DecidableEq, Repr

/-- The exact value of a finite number: `mantissa · 2 ^ exponent`, negated when
`negative`. -/
structure Binary where
  negative : Bool
  mantissa : Nat
  exponent : Int
deriving DecidableEq, Repr

/-- The exponent shared by all numbers too small for a leading one bit. -/
def lowestExponent : Int := -1074

/-- The exponent of the largest finite number's last bit. -/
def highestExponent : Int := 971

/-- Ten to a power. -/
def powerOfTen (power : Nat) : Nat := Nat.pow 10 power

namespace Double

/-- The leading bit of a mantissa that has all its bits, the fifty-third. -/
def leadingBit : Nat := 0x10000000000000

/-- The bit that tells negative numbers. -/
def signBit : Nat := 0x8000000000000000

def exponentField (double : Double) : Nat :=
  (double.bits.toNat >>> 52) % 2048

/-- The exact value that a bit pattern stands for. -/
def toBinary (double : Double) : Binary :=
  let fraction := double.bits.toNat % leadingBit
  let negative := double.bits.toNat >>> 63 == 1
  if double.exponentField == 0 then ⟨negative, fraction, lowestExponent⟩
  else ⟨negative, fraction + leadingBit, (double.exponentField : Int) - 1075⟩

/-- The pattern of a mantissa below `2 ^ 53` and an exponent in range. -/
def ofBinary (value : Binary) : Double :=
  let sign := if value.negative then signBit else 0
  if value.mantissa < leadingBit then ⟨UInt64.ofNat (sign + value.mantissa)⟩
  else
    let field := (value.exponent + 1075).toNat
    ⟨UInt64.ofNat (sign + field * leadingBit + (value.mantissa - leadingBit))⟩

def zero (negative : Bool) : Double :=
  ofBinary ⟨negative, 0, lowestExponent⟩

def isZero (double : Double) : Bool :=
  double.bits.toNat % signBit == 0

def isNegative (double : Double) : Bool :=
  double.bits.toNat >>> 63 == 1

/-- The same magnitude with the other sign. -/
def negate (double : Double) : Double :=
  ⟨double.bits ^^^ 0x8000000000000000⟩

end Double

/-- The quotient rounded to the nearest natural number, a half going to the even one. -/
def roundDivide (numerator denominator : Nat) : Nat :=
  let quotient := numerator / denominator
  let twice := 2 * (numerator % denominator)
  if twice > denominator || (twice == denominator && quotient % 2 == 1) then quotient + 1
  else quotient

/-- A natural number times a power of two, as a ratio. -/
def shiftRatio (value : Nat) (exponent : Int) : Nat × Nat :=
  match exponent with
  | .ofNat up => (value <<< up, 1)
  | .negSucc down => (value, 1 <<< (down + 1))

namespace Double

/-- The representable number nearest to `numerator / denominator`; `none` when
the ratio rounds beyond the largest one. -/
def nearest (negative : Bool) (numerator denominator : Nat) : Option Double :=
  if numerator == 0 then some (zero negative)
  else
    let guess : Int := (numerator.log2 : Int) - denominator.log2 - 53
    let start := max guess lowestExponent
    let scaled (exponent : Int) : Nat × Nat :=
      let (up, down) := shiftRatio 1 (-exponent)
      (numerator * up, denominator * down)
    let (top, bottom) := scaled start
    let exponent := if top / bottom ≥ 2 * leadingBit then start + 1 else start
    let (top, bottom) := scaled exponent
    let rounded := roundDivide top bottom
    let (mantissa, exponent) :=
      if rounded == 2 * leadingBit then (leadingBit, exponent + 1) else (rounded, exponent)
    if exponent > highestExponent then none
    else some (ofBinary ⟨negative, mantissa, exponent⟩)

/-- The product, rounded once. -/
def times (left right : Double) : Option Double :=
  let one := left.toBinary
  let two := right.toBinary
  let (top, bottom) := shiftRatio (one.mantissa * two.mantissa) (one.exponent + two.exponent)
  nearest (one.negative != two.negative) top bottom

/-- The quotient, rounded once; `none` also for a zero divisor. -/
def divide (left right : Double) : Option Double :=
  let one := left.toBinary
  let two := right.toBinary
  if two.mantissa == 0 then none
  else
    let (top, bottom) := shiftRatio one.mantissa (one.exponent - two.exponent)
    nearest (one.negative != two.negative) top (bottom * two.mantissa)

/-- The number nearest to a natural number. -/
def ofNat (value : Nat) : Option Double :=
  nearest false value 1

/-- The number nearest to `digits · 10 ^ exponent`, rounded once. Exponents that
leave no doubt about the result are not expanded. -/
def ofDecimal (negative : Bool) (digits : Nat) (exponent : Int) : Option Double :=
  let size : Int := (Nat.toDigits 10 digits).length
  if digits == 0 || exponent + size < -330 then some (zero negative)
  else if exponent + size > 330 then none
  else
    match exponent with
    | .ofNat up => nearest negative (digits * powerOfTen up) 1
    | .negSucc down => nearest negative digits (powerOfTen (down + 1))

/-- Whether the first of two finite numbers is below the second. -/
def less (left right : Double) : Bool :=
  let magnitude (double : Double) := double.bits.toNat % signBit
  if left.isZero && right.isZero then false
  else
    match left.isNegative, right.isNegative with
    | true, false => true
    | false, true => false
    | false, false => magnitude left < magnitude right
    | true, true => magnitude right < magnitude left

/-- Equality of values; the two zeros are equal. -/
def same (left right : Double) : Bool :=
  (left.isZero && right.isZero) || left.bits == right.bits

end Double

end RequestFlow.Decimal
