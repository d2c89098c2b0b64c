import CompilerGateway.Decimal.Natural

/-!
# Binary floating-point numbers of 64 bits

A **finite** number of the 64-bit binary format, held as its bits: a sign, eleven bits of
exponent and fifty-two of fraction. Its magnitude is `significand · 2 ^ exponent`, with both
parts read off the bits, so everything said about a number is said in exact integer
arithmetic.

`Binary64.ofDecimal` gives the number nearest to a decimal; of two equally near ones it takes
the one with the even significand, and a decimal beyond the greatest number has none.
`Binary64.movePoint` multiplies by a power of ten, with a number for the power and another one
for the product, so that it rounds twice.
-/

namespace CompilerGateway

/-- The quotient rounded to the nearest integer, a half to the even neighbour. -/
def roundQuotient (numerator denominator : Nat) : Nat :=
  let quotient := numerator / denominator
  let rest := numerator % denominator
  if 2 * rest < denominator then quotient
  else if denominator < 2 * rest then quotient + 1
  else if quotient % 2 = 0 then quotient
  else quotient + 1

/-- A finite number of the 64-bit binary format. -/
structure Binary64 where
  /-- Sign, exponent and fraction, from the most significant bit down. -/
  bits : UInt64
  /-- The exponent bits are not all set: the number is neither infinite nor a NaN. -/
  finite : bits.toNat >>> 52 % 0x800 < 0x7FF
  deriving DecidableEq

namespace Binary64

/-! ### Reading the bits -/

/-- Whether the sign bit is set, as it is in the negative zero. -/
def negative (x : Binary64) : Bool := x.bits.toNat >>> 63 == 1

/-- The eleven exponent bits. -/
def exponentField (x : Binary64) : Nat := x.bits.toNat >>> 52 % 0x800

/-- The fifty-two fraction bits. -/
def fractionField (x : Binary64) : Nat := x.bits.toNat % 0x10000000000000

/-- The integer that the power of two scales; the leading bit is implied unless the exponent
bits are all clear. -/
def significand (x : Binary64) : Nat :=
  if x.exponentField = 0 then x.fractionField else x.fractionField + 0x10000000000000

/-- The power of two that scales the significand. -/
def exponent (x : Binary64) : Int := (max x.exponentField 1 : Nat) - 1075

/-- Whether the number is a zero of either sign. -/
def isZero (x : Binary64) : Bool := x.significand == 0

/-- Whether the next smaller number is only half as far away as the next greater one, which
is so at the powers of two. -/
def narrowBelow (x : Binary64) : Bool := x.fractionField == 0 && decide (1 < x.exponentField)

/-! ### The number nearest to a decimal -/

/-- The quotient divided by `2 ^ power`, as a quotient. -/
def scaleDown (numerator denominator : Nat) (power : Int) : Nat × Nat :=
  if 0 ≤ power then (numerator, denominator <<< power.toNat)
  else (numerator <<< (-power).toNat, denominator)

/-- The bits, sign apart, of the number nearest to a positive quotient. The significand is
rounded at the power of two that leaves it fifty-three bits, or at the least power there is;
a significand that rounds up to `2 ^ 53` carries into the exponent bits. -/
def nearestBits (numerator denominator : Nat) : Nat :=
  let top : Int := (numerator.log2 : Int) - (denominator.log2 : Int)
  let guess := max (top - 52) (-1074)
  let scaled := scaleDown numerator denominator guess
  let power := if scaled.1 < scaled.2 <<< 52 then max (guess - 1) (-1074) else guess
  let parts := scaleDown numerator denominator power
  roundQuotient parts.1 parts.2 + (power + 1074).toNat <<< 52

/-- The number with the given sign and magnitude bits, if it is finite. -/
def ofMagnitude (negative : Bool) (magnitude : Nat) : Option Binary64 :=
  if magnitude < 0x7FF0000000000000 then
    let bits := UInt64.ofNat (magnitude + if negative then 0x8000000000000000 else 0)
    if finite : bits.toNat >>> 52 % 0x800 < 0x7FF then some ⟨bits, finite⟩ else none
  else none

/-- The number nearest to `digits · 10 ^ power`, if it is within the format's range. Powers
that put the decimal far outside the range on either side are decided without computing it. -/
def ofDecimal (negative : Bool) (digits : Nat) (power : Int) : Option Binary64 :=
  let places : Int := (Nat.toDigits 10 digits).length
  if digits = 0 ∨ power + places < -330 then ofMagnitude negative 0
  else if 310 < power + places then none
  else if 0 ≤ power then
    ofMagnitude negative (nearestBits (digits * Decimal.powerOfTen power.toNat) 1)
  else ofMagnitude negative (nearestBits digits (Decimal.powerOfTen (-power).toNat))

/-! ### Rounded arithmetic -/

/-- The number nearest to a quotient, if it is within the format's range. -/
def ofQuotient (negative : Bool) (numerator denominator : Nat) : Option Binary64 :=
  ofMagnitude negative (if numerator = 0 then 0 else nearestBits numerator denominator)

/-- The magnitude as a quotient. -/
def quotient (x : Binary64) : Nat × Nat := scaleDown x.significand 1 (-x.exponent)

/-- The number nearest to the product. -/
def times (x y : Binary64) : Option Binary64 :=
  ofQuotient (x.negative != y.negative) (x.quotient.1 * y.quotient.1)
    (x.quotient.2 * y.quotient.2)

/-- The number nearest to the quotient. -/
def dividedBy (x y : Binary64) : Option Binary64 :=
  ofQuotient (x.negative != y.negative) (x.quotient.1 * y.quotient.2)
    (x.quotient.2 * y.quotient.1)

/-- The number nearest to a power of ten. -/
def tenTo (power : Nat) : Option Binary64 := ofDecimal false 1 power

/-- The greatest power of ten within the format's range. -/
def greatestTen : Nat := 308

/-- A number with its decimal point moved to the right by so many places. A step takes no more
places than the greatest power of ten has, and rounds; no number is left after two steps to
the left, and no number other than zero can go beyond one step to the right. -/
def movePoint (x : Binary64) (places : Int) : Option Binary64 :=
  if x.isZero then some x
  else if 0 ≤ places then
    if greatestTen < places then none else (tenTo places.toNat).bind x.times
  else
    let back := (-places).toNat
    if back ≤ greatestTen then (tenTo back).bind x.dividedBy
    else if 2 * greatestTen < back then ofMagnitude x.negative 0
    else
      match (tenTo greatestTen).bind x.dividedBy, tenTo (back - greatestTen) with
      | some x, some ten => x.dividedBy ten
      | _, _ => none

end Binary64

end CompilerGateway
