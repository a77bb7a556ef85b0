import RecordCheck.Double.Basic
import RecordCheck.Numeral

/-!
# Decimal texts of doubles

Reading and writing doubles in decimal.

* `read?` — the double nearest to a decimal literal.  A literal is an optional sign and either
  `inf`, `infinity` or `nan` in any case, or digits with an optional point and an optional
  exponent; there is a digit on at least one side of the point.
* `shortest` — the fewest digits that read back as the same double, and of those the nearest.
* `text` — the digits laid out: positional from `0.0001` up to but not including `10 ^ 16`, with
  a point always, and scientific outside.
-/

namespace RecordCheck.Double

/-! ## Reading -/

/-- The double nearest to `m · 10 ^ e`.  Exponents so far out that the answer is already known
are not expanded. -/
def ofDecimal (negative : Bool) (m : Nat) (e : Int) : Double :=
  let size : Int := Nat.log2 m + 1
  if m = 0 then ofMagnitude negative 0
  else if 400 < e then infinity negative
  else if e < -400 - size then ofMagnitude negative 0
  else ofRatio negative (m * Nat.pow 10 e.toNat) (Nat.pow 10 (-e).toNat)

/-- Splits off a sign; `true` stands for a minus. -/
def splitSign : List Char → Bool × List Char
  | '-' :: s => (true, s)
  | '+' :: s => (false, s)
  | s => (false, s)

/-- The exponent that follows the digits of a literal: nothing at all, or `e` or `E` with an
optional sign and at least one digit. -/
def exponent? : List Char → Option Int
  | [] => some 0
  | c :: s =>
    if c = 'e' ∨ c = 'E' then
      (Numeral.digits? (splitSign s).2).map fun n => if (splitSign s).1 then -(n : Int) else n
    else none

/-- An unsigned decimal literal, as a whole number and a power of ten. -/
def decimal? (s : List Char) : Option (Nat × Int) :=
  let whole := s.takeWhile Char.isDigit
  let rest := s.dropWhile Char.isDigit
  let fraction := match rest with
    | '.' :: t => t.takeWhile Char.isDigit
    | _ => []
  let tail := match rest with
    | '.' :: t => t.dropWhile Char.isDigit
    | t => t
  if whole = [] ∧ fraction = [] then none
  else (exponent? tail).map fun e =>
    (Numeral.appendDigits 0 (whole ++ fraction), e - fraction.length)

/-- The double of an unsigned literal under a sign. -/
def unsigned? (negative : Bool) (s : List Char) : Option Double :=
  let lower := String.ofList (s.map Char.toLower)
  if lower = "inf" ∨ lower = "infinity" then some (infinity negative)
  else if lower = "nan" then some nan
  else (decimal? s).map fun d => ofDecimal negative d.1 d.2

/-- The double of a decimal literal. -/
def read? (s : List Char) : Option Double :=
  unsigned? (splitSign s).1 (splitSign s).2

/-! ## The shortest digits -/

/-- The fraction `a / b` times a power of ten. -/
def scaleTen (a b : Nat) (e : Int) : Nat × Nat :=
  (a * Nat.pow 10 e.toNat, b * Nat.pow 10 (-e).toNat)

/-- The least `k` with `num / den < 10 ^ k`, searched upwards from `k`. -/
def decimalPoint (num den : Nat) : Nat → Int → Int
  | 0, k => k
  | fuel + 1, k =>
    if (scaleTen num den (-k)).1 < (scaleTen num den (-k)).2 then k
    else decimalPoint num den fuel (k + 1)

/-- A decimal candidate `d · 10 ^ e` reads back as the double `m · 2 ^ q`: four times the
candidate and the double, brought to one denominator, are no further apart than half a unit,
the end included when `m` is even.  Below a power of two the units are half as wide. -/
def readsBack (m : Nat) (q : Int) (d : Nat) (e : Int) : Bool :=
  let v := ratioOfUnits m q
  let u := ratioOfUnits 1 q
  let c := scaleTen d 1 e
  -- all over the denominator `v.2 * c.2`, times four
  let value := 4 * v.1 * c.2
  let cand := 4 * c.1 * v.2
  let above := 2 * u.1 * c.2
  let below := if m = hiddenBit ∧ -1074 < q then u.1 * c.2 else above
  if m % 2 = 0 then value ≤ cand + below && cand ≤ value + above
  else value < cand + below && cand < value + above

/-- The candidate with `n` digits for the double `m · 2 ^ q` below `10 ^ k`: of its two
neighbours on the grid of `n` digits the nearer one, a half going to the even neighbour, among
those that read back. -/
def candidate? (m : Nat) (q k : Int) (n : Nat) : Option (Nat × Int) :=
  let e := k - n
  let v := ratioOfUnits m q
  let s := scaleTen v.1 v.2 (-e)
  let low := s.1 / s.2
  let lowReads := low != 0 && readsBack m q low e
  let highReads := readsBack m q (low + 1) e
  if lowReads && highReads then some (roundDiv s.1 s.2, e)
  else if lowReads then some (low, e)
  else if highReads then some (low + 1, e)
  else none

/-- The same decimal without a last digit `0`, which appears when the next power of ten is the
shortest candidate. -/
def dropZero (d : Nat × Int) : Nat × Int :=
  if d.1 % 10 = 0 then (d.1 / 10, d.2 + 1) else d

/-- The fewest digits `d` and the exponent `e` such that `d · 10 ^ e` reads back as the finite
double; seventeen digits always do. -/
def shortest (x : Double) : Nat × Int :=
  let k := decimalPoint x.ratio.1 x.ratio.2 700 (-330)
  dropZero
    (((List.range 17).findSome? fun n => candidate? x.units.1 x.units.2 k (n + 1)).getD (0, 0))

/-! ## Writing -/

/-- The digits of `d · 10 ^ e` with a point among them, at least one digit on either side. -/
def positional (digits : List Char) (point : Int) : List Char :=
  if point ≤ 0 then
    ['0', '.'] ++ List.replicate (-point).toNat '0' ++ digits
  else if digits.length ≤ point.toNat then
    digits ++ List.replicate (point.toNat - digits.length) '0' ++ ['.', '0']
  else digits.take point.toNat ++ '.' :: digits.drop point.toNat

/-- The digits with the point behind the first of them, and a power of ten. -/
def scientific (digits : List Char) (point : Int) : List Char :=
  digits.take 1 ++ (if digits.length = 1 then [] else '.' :: digits.drop 1)
    ++ 'e' :: Numeral.ofInt (point - 1)

/-- The text of the absolute value of a finite double. -/
def unsignedText (x : Double) : List Char :=
  if x.isZero then ['0', '.', '0']
  else
    let d := x.shortest
    let digits := Numeral.ofNat d.1
    let point := d.2 + digits.length
    if -3 ≤ point ∧ point ≤ 16 then positional digits point else scientific digits point

/-- The text of a double: the fewest digits that read back, laid out positionally from `0.0001`
up to but not including `10 ^ 16` and scientifically outside. -/
def text (x : Double) : String :=
  if x.isNaN then "NaN"
  else
    (if x.isNegative then "-" else "")
      ++ (if x.isFinite then String.ofList x.unsignedText else "inf")

end RecordCheck.Double
