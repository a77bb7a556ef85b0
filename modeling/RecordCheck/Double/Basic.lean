/-!
# Binary floating-point numbers

Floating-point values are 64-bit IEEE 754 doubles, kept as their bits so that every statement
about them is a statement about whole numbers.

* `magnitude`, `isNegative` — the bits without the sign bit, and the sign bit.  Among finite
  numbers and infinities the magnitudes are ordered as the absolute values are.
* `compare?` — the order of two doubles; there is none when one of them is not a number, and
  the two zeros are equal.
* `ofRatio` — the double nearest to a fraction, ties to the even neighbour; beyond the largest
  finite double it is an infinity.
* `toSingle` — the double that remains after a detour through single precision.
* `mul`, `div` — exact product and quotient of finite doubles, rounded once.
-/

namespace RecordCheck

/-- An IEEE 754 double, by its bits. -/
structure Double where
  bits : UInt64
  deriving DecidableEq, Repr, Inhabited

namespace Double

/-! ## The parts of the bits -/

/-- The bit of the sign, `2 ^ 63`. -/
abbrev signBit : Nat := 0x8000000000000000

/-- The bit above the fraction, `2 ^ 52`, which all but the least magnitudes leave out. -/
abbrev hiddenBit : Nat := 0x10000000000000

/-- Is the sign bit set? -/
def isNegative (x : Double) : Bool :=
  signBit ≤ x.bits.toNat

/-- The bits below the sign bit. -/
def magnitude (x : Double) : Nat :=
  x.bits.toNat % signBit

/-- The magnitude of the infinities; larger magnitudes are not numbers. -/
def infiniteMagnitude : Nat :=
  2047 * hiddenBit

/-- Not a number. -/
def isNaN (x : Double) : Bool :=
  infiniteMagnitude < x.magnitude

/-- Neither infinite nor NaN. -/
def isFinite (x : Double) : Bool :=
  x.magnitude < infiniteMagnitude

/-- One of the two zeros. -/
def isZero (x : Double) : Bool :=
  x.magnitude == 0

/-- The double with a sign and a magnitude. -/
def ofMagnitude (negative : Bool) (magnitude : Nat) : Double :=
  ⟨UInt64.ofNat ((if negative then signBit else 0) + magnitude)⟩

/-- Positive zero. -/
def zero : Double :=
  ofMagnitude false 0

/-- An infinity. -/
def infinity (negative : Bool) : Double :=
  ofMagnitude negative infiniteMagnitude

/-- The quiet NaN without a payload. -/
def nan : Double :=
  ofMagnitude false (infiniteMagnitude + hiddenBit / 2)

/-- The double with the sign bit flipped. -/
def neg (x : Double) : Double :=
  ofMagnitude (!x.isNegative) x.magnitude

/-! ## Order -/

/-- The signed magnitude.  It orders all doubles but NaN, and both zeros have key `0`. -/
def orderKey (x : Double) : Int :=
  if x.isNegative then -(x.magnitude : Int) else x.magnitude

/-- How two doubles compare; nothing when one of them is not a number. -/
def compare? (x y : Double) : Option Ordering :=
  if x.isNaN || y.isNaN then none else some (compare x.orderKey y.orderKey)

/-! ## Finite doubles as `m · 2 ^ q` -/

/-- The whole number `m` and the exponent `q` with which a finite double is `m · 2 ^ q`, its
sign apart. -/
def units (x : Double) : Nat × Int :=
  if x.magnitude < hiddenBit then (x.magnitude, -1074)
  else (x.magnitude % hiddenBit + hiddenBit, (x.magnitude / hiddenBit : Nat) - 1075)

/-- The fraction `m · 2 ^ q`. -/
def ratioOfUnits (m : Nat) (q : Int) : Nat × Nat :=
  (m * Nat.pow 2 q.toNat, Nat.pow 2 (-q).toNat)

/-- The absolute value of a finite double as a fraction. -/
def ratio (x : Double) : Nat × Nat :=
  ratioOfUnits x.units.1 x.units.2

/-! ## Rounding -/

/-- A quotient rounded to the nearest whole number, a half to the even neighbour. -/
def roundDiv (num den : Nat) : Nat :=
  let q := num / den
  let r := num % den
  if 2 * r < den then q
  else if den < 2 * r then q + 1
  else q + q % 2

/-- The largest `e` with `2 ^ e ≤ num / den`, for positive `num` and `den`. -/
def floorLog2 (num den : Nat) : Int :=
  let e : Int := (Nat.log2 num : Int) - Nat.log2 den
  if num * Nat.pow 2 (-e).toNat < den * Nat.pow 2 e.toNat then e - 1 else e

/-- The multiple `m · 2 ^ q` nearest to `num / den` that has at most `digits` binary digits and
a unit `2 ^ q` no finer than `2 ^ least`; carrying may give `m = 2 ^ digits`. -/
def nearestUnits (digits : Nat) (least : Int) (num den : Nat) : Nat × Int :=
  if num = 0 then (0, least)
  else
    let q := max (floorLog2 num den - (digits - 1)) least
    (roundDiv (num * Nat.pow 2 (-q).toNat) (den * Nat.pow 2 q.toNat), q)

/-- The double nearest to `num / den`, with a sign. -/
def ofRatio (negative : Bool) (num den : Nat) : Double :=
  let u := nearestUnits 53 (-1074) num den
  if u.1 = 0 then ofMagnitude negative 0
  else ofMagnitude negative (min infiniteMagnitude ((u.2 + 1074).toNat * hiddenBit + u.1))

/-- The double nearest to a whole number. -/
def ofNat (n : Nat) : Double :=
  ofRatio false n 1

/-- The double that is left of `x` when it is stored with single precision. -/
def toSingle (x : Double) : Double :=
  if x.isFinite then
    let u := nearestUnits 24 (-149) x.ratio.1 x.ratio.2
    if Nat.pow 2 (128 + 149) ≤ u.1 * Nat.pow 2 (u.2 + 149).toNat then infinity x.isNegative
    else ofRatio x.isNegative (ratioOfUnits u.1 u.2).1 (ratioOfUnits u.1 u.2).2
  else x

/-- The product of two finite doubles, rounded once. -/
def mul (x y : Double) : Double :=
  ofRatio (x.isNegative != y.isNegative) (x.ratio.1 * y.ratio.1) (x.ratio.2 * y.ratio.2)

/-- The quotient of two finite doubles, the second not zero, rounded once. -/
def div (x y : Double) : Double :=
  ofRatio (x.isNegative != y.isNegative) (x.ratio.1 * y.ratio.2) (x.ratio.2 * y.ratio.1)

end Double

end RecordCheck
