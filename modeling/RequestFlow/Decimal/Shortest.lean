import RequestFlow.Decimal.Double
import RequestFlow.Text.Ascii

/-!
Contract: the fewest decimal digits that read back as the same number.

Owns: the search for the digits, on the exact value `m · 2 ^ q`, and the layout
of digits as text under a `Style`.

The search goes through decimal grids from coarse to fine. On each grid only the
two points next to the value can lie in the interval of reals that round to it,
so the first grid with such a point gives the fewest digits.
-/

namespace RequestFlow.Decimal

/-- Decimal digits and the power of ten they are scaled by. -/
structure Digits where
  significand : Nat
  exponent : Int
deriving DecidableEq, Repr

/-- The grid point to take at `10 ^ power`, if one reads back as the value. The
value and its interval are measured in quarters of the last binary place. -/
def gridPoint? (mantissa : Nat) (exponent power : Int) : Option Nat :=
  let isLowest := mantissa == Double.leadingBit && exponent > lowestExponent
  let value := 4 * mantissa
  let low := value - (if isLowest then 1 else 2)
  let high := value + 2
  let (quarterUp, quarterDown) := shiftRatio 1 (exponent - 2)
  let measure (quarters : Nat) : Nat := quarters * quarterUp * powerOfTen (-power).toNat
  let step := quarterDown * powerOfTen power.toNat
  let ends := mantissa % 2 == 0
  let inside (point : Nat) : Bool :=
    let place := point * step
    if ends then measure low ≤ place && place ≤ measure high
    else measure low < place && place < measure high
  let below := measure value / step
  let above := below + 1
  match inside below, inside above with
  | false, false => none
  | true, false => some below
  | false, true => some above
  | true, true =>
      let lowGap := measure value - below * step
      let highGap := above * step - measure value
      if lowGap < highGap then some below
      else if highGap < lowGap then some above
      else some (if below % 2 == 0 then below else above)

/-- Tries ever finer grids, `fuel` of them at most. -/
def searchGrids (mantissa : Nat) (exponent : Int) : Nat → Int → Digits
  | 0, power => ⟨0, power⟩
  | fuel + 1, power =>
      match gridPoint? mantissa exponent power with
      | some point =>
          if point == 0 then searchGrids mantissa exponent fuel (power - 1) else ⟨point, power⟩
      | none => searchGrids mantissa exponent fuel (power - 1)

/-- The shortest digits of a positive value. The first grid is coarser than the
value, and twenty-five finer ones go beyond seventeen digits. -/
def shortest (mantissa : Nat) (exponent : Int) : Digits :=
  let magnitude : Int := (mantissa.log2 : Int) + exponent
  searchGrids mantissa exponent 25 (magnitude * 30103 / 100000 + 2)

/-- Where a text changes from positional to exponent form, by the power of ten of
the leading digit. -/
structure Style where
  firstPositional : Int
  firstExponential : Int

/-- Digits written around a decimal point, with at least one digit on each side. -/
def positional (digits : List Char) (exponent : Int) : List Char :=
  let lead := (digits.length : Int) + exponent
  match exponent with
  | .ofNat zeros => digits ++ List.replicate zeros '0' ++ ['.', '0']
  | .negSucc _ =>
      if lead > 0 then digits.take lead.toNat ++ ['.'] ++ digits.drop lead.toNat
      else ['0', '.'] ++ List.replicate (-lead).toNat '0' ++ digits

/-- Digits with one digit before the point and a signed exponent after an `e`. -/
def exponential (digits : List Char) (lead : Int) : List Char :=
  let fraction := digits.drop 1
  let point := if fraction.isEmpty then [] else '.' :: fraction
  let sign := if lead < 0 then '-' else '+'
  digits.take 1 ++ point ++ ['e', sign] ++ Text.natDigits 10 lead.natAbs

/-- The text of a finite number: its shortest digits under a style. -/
def Double.text (style : Style) (double : Double) : String :=
  let value := double.toBinary
  let sign := if value.negative then ['-'] else []
  let body :=
    if value.mantissa == 0 then ['0', '.', '0']
    else
      let found := shortest value.mantissa value.exponent
      let digits := Text.natDigits 10 found.significand
      let lead := (digits.length : Int) + found.exponent - 1
      if style.firstPositional ≤ lead && lead < style.firstExponential then
        positional digits found.exponent
      else exponential digits lead
  String.ofList (sign ++ body)

end RequestFlow.Decimal
