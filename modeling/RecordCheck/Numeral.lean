/-!
# Integer numerals

How whole numbers are written and read in parameters.  A literal is an optional sign followed
by one or more ASCII digits, leading zeros allowed; nothing else, blanks included, is accepted.

* `literal?` — the integer that a literal with either sign stands for.
* `natural?` — the same for literals without a minus sign.
* `int64?`, `uint64?` — literals that fit a signed or an unsigned machine word.
* `ofNat`, `ofInt` — the shortest literal of a number: no plus sign, no leading zero.
* `digits?_ofNat`, `literal?_ofInt` — the shortest literal is read back as the number.
-/

namespace RecordCheck.Numeral

/-- The value of an ASCII digit. -/
def digitValue (c : Char) : Nat :=
  c.toNat - 48

/-- The number that follows a number when further digits are written after it. -/
def appendDigits (n : Nat) (digits : List Char) : Nat :=
  digits.foldl (fun n c => 10 * n + digitValue c) n

/-- The number written by a non-empty run of ASCII digits. -/
def digits? (s : List Char) : Option Nat :=
  if s ≠ [] ∧ s.all Char.isDigit then some (appendDigits 0 s) else none

/-- The number of a literal that has no minus sign. -/
def natural? : List Char → Option Nat
  | '+' :: s => digits? s
  | s => digits? s

/-- The integer of a literal with an optional sign. -/
def literal? : List Char → Option Int
  | '-' :: s => (digits? s).map fun n => -(n : Int)
  | s => (natural? s).map fun n => (n : Int)

/-- The signed 64-bit word of a literal in its range. -/
def int64? (s : List Char) : Option Int64 :=
  match literal? s with
  | some n =>
    if -0x8000000000000000 ≤ n ∧ n < 0x8000000000000000 then some (Int64.ofInt n) else none
  | none => none

/-- The unsigned 64-bit word of a literal in its range. -/
def uint64? (s : List Char) : Option UInt64 :=
  match natural? s with
  | some n => if n < UInt64.size then some (UInt64.ofNat n) else none
  | none => none

/-- The decimal digits of a number. -/
def ofNat (n : Nat) : List Char :=
  Nat.toDigits 10 n

/-- The shortest literal of an integer. -/
def ofInt : Int → List Char
  | .ofNat n => ofNat n
  | .negSucc n => '-' :: ofNat (n + 1)

/-! ## Reading back what is written -/

theorem isDigit_of_mem_ofNat {n : Nat} {c : Char} (h : c ∈ ofNat n) : c.isDigit = true :=
  Nat.isDigit_of_mem_toDigits (by decide) (by decide) h

/-- The digits of a number are read back as the number. -/
theorem digits?_ofNat (n : Nat) : digits? (ofNat n) = some n := by
  have hne : ofNat n ≠ [] := Nat.toDigits_ne_nil
  have hall : (ofNat n).all Char.isDigit = true :=
    List.all_eq_true.2 fun _ hc => isDigit_of_mem_ofNat hc
  rw [digits?, if_pos ⟨hne, hall⟩]
  exact congrArg some Nat.ofDigitChars_ten_toDigits

/-- A number is written without a sign. -/
theorem ne_sign_of_ofNat {n : Nat} {c : Char} {s : List Char} (h : ofNat n = c :: s) :
    c ≠ '+' ∧ c ≠ '-' := by
  have hc : c.isDigit = true := isDigit_of_mem_ofNat (by rw [h]; exact List.mem_cons_self ..)
  constructor
  · rintro rfl
    exact absurd hc (by decide)
  · rintro rfl
    exact absurd hc (by decide)

theorem natural?_ofNat (n : Nat) : natural? (ofNat n) = some n := by
  have hdigits := digits?_ofNat n
  unfold natural?
  split
  · next hs => exact absurd rfl (ne_sign_of_ofNat hs).1
  · exact hdigits

theorem literal?_ofNat (n : Nat) : literal? (ofNat n) = some (n : Int) := by
  have hnatural := natural?_ofNat n
  unfold literal?
  split
  · next hs => exact absurd rfl (ne_sign_of_ofNat hs).2
  · rw [hnatural]
    rfl

/-- The literal of an integer is read back as the integer. -/
theorem literal?_ofInt (n : Int) : literal? (ofInt n) = some n := by
  cases n with
  | ofNat n => exact literal?_ofNat n
  | negSucc n => simp [ofInt, literal?, digits?_ofNat, Int.negSucc_eq]

/-- Different integers are written differently. -/
theorem ofInt_injective {m n : Int} (h : ofInt m = ofInt n) : m = n :=
  Option.some.inj (by rw [← literal?_ofInt m, h, literal?_ofInt])

end RecordCheck.Numeral
