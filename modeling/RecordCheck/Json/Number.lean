import RecordCheck.Json.Basic
import RecordCheck.Numeral

/-!
# JSON number literals

A number literal is an optional minus sign, a whole part without superfluous zeros, and
optionally a fraction and an exponent.

* `NumberText.scan?` — the literal at the head of a text, and what follows it.
* `NumberText.number?` — its number.  A literal without fraction and exponent is an integer
  when a machine word can hold it; every other literal is a double.

The double of a literal is found in two steps.  Its digits are gathered into a 64-bit word as
long as they fit; whole digits that do not fit count as powers of ten, and fraction digits that
do not fit are dropped.  The word, as a double, is then multiplied or divided by the double of a
power of ten.  A literal beyond the largest double has no number; one below the smallest is zero.
-/

namespace RecordCheck

/-- The parts of a number literal. -/
structure NumberText where
  negative : Bool
  whole : List Char
  fraction : List Char
  exponent : Option Int
  deriving Repr

namespace NumberText

/-! ## Scanning -/

/-- The whole part: a zero alone, or digits that do not start with a zero. -/
def scanWhole? (s : List Char) : Option (List Char × List Char) :=
  match s.takeWhile Char.isDigit with
  | [] => none
  | '0' :: _ :: _ => none
  | digits => some (digits, s.dropWhile Char.isDigit)

/-- The fraction: a point and at least one digit, or nothing. -/
def scanFraction? : List Char → Option (List Char × List Char)
  | '.' :: s =>
    match s.takeWhile Char.isDigit with
    | [] => none
    | digits => some (digits, s.dropWhile Char.isDigit)
  | s => some ([], s)

/-- The number after the letter of an exponent: an optional sign and at least one digit. -/
def scanPower? (s : List Char) : Option (Int × List Char) :=
  let minus := s.head? == some '-'
  let s := if s.head? == some '-' || s.head? == some '+' then s.tail else s
  (Numeral.digits? (s.takeWhile Char.isDigit)).map fun n =>
    (if minus then -(n : Int) else n, s.dropWhile Char.isDigit)

/-- The exponent, or nothing. -/
def scanExponent? : List Char → Option (Option Int × List Char)
  | c :: s =>
    if c = 'e' ∨ c = 'E' then (scanPower? s).map fun r => (some r.1, r.2)
    else some (none, c :: s)
  | [] => some (none, [])

/-- The literal at the head of a text without its sign, and what follows it. -/
def scanUnsigned? (negative : Bool) (s : List Char) : Option (NumberText × List Char) :=
  match scanWhole? s with
  | none => none
  | some (whole, s) =>
    match scanFraction? s with
    | none => none
    | some (fraction, s) =>
      (scanExponent? s).map fun r => (⟨negative, whole, fraction, r.1⟩, r.2)

/-- The literal at the head of a text, and what follows it. -/
def scan? : List Char → Option (NumberText × List Char)
  | '-' :: s => scanUnsigned? true s
  | s => scanUnsigned? false s

/-! ## Numbers -/

/-- Appends digits to a number while the result fits an unsigned word; also the number of
digits left over. -/
def gather : Nat → List Char → Nat × Nat
  | n, [] => (n, 0)
  | n, c :: cs =>
    if 10 * n + Numeral.digitValue c < UInt64.size then gather (10 * n + Numeral.digitValue c) cs
    else (n, cs.length + 1)

/-- A double times a power of ten, in steps of at most `10 ^ 308`, or nothing beyond the largest
double.  Three steps down take every word to zero. -/
def timesTen : Nat → Double → Int → Option Double
  | 0, _, _ => some .zero
  | steps + 1, x, e =>
    if -308 ≤ e ∧ e ≤ 308 then
      let power := Double.ofNat (Nat.pow 10 e.natAbs)
      let y := if 0 ≤ e then x.mul power else x.div power
      if y.isFinite then some y else none
    else if x.isZero then some x
    else if 0 ≤ e then none
    else timesTen steps (x.div (Double.ofNat (Nat.pow 10 308))) (e + 308)

/-- The double of a word times a power of ten, with a sign. -/
def float? (negative : Bool) (word : Nat) (e : Int) : Option Json.Number :=
  (timesTen 3 (Double.ofNat word) e).map fun x => .float (if negative then x.neg else x)

/-- The number of a literal without fraction and exponent whose digits fit a word. -/
def integer? (negative : Bool) (word : Nat) : Option Json.Number :=
  if negative then
    if 0 < word ∧ word ≤ 0x8000000000000000 then some (.int (Int64.ofInt (-(word : Int))))
    else float? true word 0
  else some (.ofUInt64 (UInt64.ofNat word))

/-- The number of a literal. -/
def number? (t : NumberText) : Option Json.Number :=
  let whole := gather 0 t.whole
  let all := gather whole.1 t.fraction
  let shift : Int := whole.2 - (t.fraction.length - all.2 : Nat)
  match t.exponent with
  | some e => float? t.negative all.1 (shift + e)
  | none =>
    if t.fraction = [] ∧ whole.2 = 0 then integer? t.negative whole.1
    else float? t.negative all.1 shift

end NumberText

end RecordCheck
