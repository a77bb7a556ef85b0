import Mathlib.Data.List.Induction
import Mathlib.Data.Nat.Digits.Defs
import RecordCheck.Numeral

/-!
# What integer literals stand for

A literal is an optional sign and one or more ASCII digits, leading zeros allowed.  What it stands
for is said here without regard to how it is read; reading finds just this.

* `Numeral.decimal` — the number that digits write in the decimal system.
* `Numeral.Writes` — the literals and the integers that they stand for.
* `Numeral.literal?_eq_some_iff` — what is read is the integer of a literal, and every literal is
  read.
* `Numeral.int64?_eq_some_iff`, `Numeral.uint64?_eq_some_iff` — the same for machine words: a signed
  word is read from every literal in its range, an unsigned one if the literal has no minus sign.
* `Numeral.IsCanonical`, `Numeral.IsCanonical.exists_ofInt` — the literals without needless characters
  are the shortest ones.
-/

namespace RecordCheck.Numeral

/-- The number that digits write in the decimal system, the most significant digit first. -/
def decimal (digits : List Char) : ℕ :=
  Nat.ofDigits 10 (digits.reverse.map digitValue)

/-- One or more ASCII digits. -/
def IsDigits (s : List Char) : Prop :=
  s ≠ [] ∧ ∀ c ∈ s, c.isDigit = true

/-- `Writes s p`: the text `s` is an integer literal, and it stands for `p`. -/
inductive Writes : List Char → ℤ → Prop where
  | unsigned {digits : List Char} : IsDigits digits → Writes digits (decimal digits)
  | plus {digits : List Char} : IsDigits digits → Writes ('+' :: digits) (decimal digits)
  | minus {digits : List Char} : IsDigits digits → Writes ('-' :: digits) (-decimal digits)

/-! ## Digits -/

theorem appendDigits_zero (digits : List Char) : appendDigits 0 digits = decimal digits := by
  have hstep : (fun (n : ℕ) (c : Char) => 10 * n + digitValue c) =
      fun n c => ((digitValue c : ℕ) : ℕ) + 10 * n :=
    funext fun n => funext fun c => Nat.add_comm _ _
  rw [decimal, Nat.ofDigits_eq_foldr, List.foldr_map, List.foldr_reverse, appendDigits, hstep]
  rfl

/-- A run of digits is read as the number that it writes. -/
theorem digits?_eq_some_iff {s : List Char} {n : ℕ} :
    digits? s = some n ↔ IsDigits s ∧ decimal s = n := by
  have hdigits : (s ≠ [] ∧ s.all Char.isDigit = true) ↔ IsDigits s := by
    rw [IsDigits, List.all_eq_true]
  unfold digits?
  split
  · next h => rw [appendDigits_zero, Option.some_inj, and_iff_right (hdigits.1 h)]
  · next h => simp [mt hdigits.2 h]

theorem IsDigits.not_sign {s : List Char} (h : IsDigits s) :
    s.head? ≠ some '+' ∧ s.head? ≠ some '-' := by
  have hhead (sign : Char) (hsign : sign.isDigit = false) : s.head? ≠ some sign := by
    intro hs
    have hdigit := h.2 sign (List.mem_of_head? hs)
    rw [hsign] at hdigit
    cases hdigit
  exact ⟨hhead '+' (by decide), hhead '-' (by decide)⟩

/-! ## Literals -/

theorem Writes.nonneg {s : List Char} {p : ℤ} (h : Writes s p) (hminus : s.head? ≠ some '-') :
    0 ≤ p := by
  cases h with
  | unsigned => exact Int.natCast_nonneg _
  | plus => exact Int.natCast_nonneg _
  | minus => exact absurd rfl hminus

theorem Writes.nonpos {s : List Char} {p : ℤ} (h : Writes s p) (hminus : s.head? = some '-') :
    p ≤ 0 := by
  cases h with
  | unsigned hdigits => exact absurd hminus hdigits.not_sign.2
  | plus => cases hminus
  | minus => exact Int.neg_nonpos_of_nonneg (Int.natCast_nonneg _)

theorem natural?_of_not_plus {s : List Char} (h : s.head? ≠ some '+') : natural? s = digits? s := by
  unfold natural?
  split
  · exact absurd rfl h
  · rfl

theorem literal?_minus (s : List Char) :
    literal? ('-' :: s) = (digits? s).map fun n : ℕ => -(n : ℤ) := by
  cases h : digits? s <;> simp [literal?, h]

theorem literal?_of_not_minus {s : List Char} (h : s.head? ≠ some '-') :
    literal? s = (natural? s).map fun n : ℕ => (n : ℤ) := by
  unfold literal?
  split
  · exact absurd rfl h
  · cases natural? s <;> rfl

/-- A literal without a minus sign is read as a natural number. -/
theorem natural?_eq_some_iff {s : List Char} {n : ℕ} :
    natural? s = some n ↔ Writes s n ∧ s.head? ≠ some '-' := by
  constructor
  · intro h
    unfold natural? at h
    split at h
    · next t =>
      obtain ⟨hdigits, rfl⟩ := digits?_eq_some_iff.1 h
      exact ⟨.plus hdigits, by simp⟩
    · obtain ⟨hdigits, rfl⟩ := digits?_eq_some_iff.1 h
      exact ⟨.unsigned hdigits, hdigits.not_sign.2⟩
  · rintro ⟨h, hminus⟩
    generalize hp : (n : ℤ) = p at h
    cases h with
    | unsigned hdigits =>
      rw [natural?_of_not_plus hdigits.not_sign.1, digits?_eq_some_iff]
      exact ⟨hdigits, (Int.ofNat_inj.1 hp).symm⟩
    | plus hdigits => exact digits?_eq_some_iff.2 ⟨hdigits, (Int.ofNat_inj.1 hp).symm⟩
    | minus hdigits => exact absurd rfl hminus

/-- What is read is the integer of a literal, and every literal is read. -/
theorem literal?_eq_some_iff {s : List Char} {p : ℤ} : literal? s = some p ↔ Writes s p := by
  by_cases hminus : s.head? = some '-'
  · obtain ⟨t, rfl⟩ := List.head?_eq_some_iff.1 hminus
    rw [literal?_minus, Option.map_eq_some_iff]
    constructor
    · rintro ⟨n, hn, rfl⟩
      obtain ⟨hdigits, rfl⟩ := digits?_eq_some_iff.1 hn
      exact .minus hdigits
    · intro h
      cases h with
      | unsigned hdigits => exact absurd rfl hdigits.not_sign.2
      | minus hdigits => exact ⟨_, digits?_eq_some_iff.2 ⟨hdigits, rfl⟩, rfl⟩
  · rw [literal?_of_not_minus hminus, Option.map_eq_some_iff]
    constructor
    · rintro ⟨n, hn, rfl⟩
      exact (natural?_eq_some_iff.1 hn).1
    · intro h
      obtain ⟨n, rfl⟩ := Int.eq_ofNat_of_zero_le (h.nonneg hminus)
      exact ⟨n, natural?_eq_some_iff.2 ⟨h, hminus⟩, rfl⟩

/-- A literal stands for one integer. -/
theorem Writes.unique {s : List Char} {p q : ℤ} (hp : Writes s p) (hq : Writes s q) : p = q := by
  rw [← literal?_eq_some_iff] at hp hq
  exact Option.some.inj (hp.symm.trans hq)

/-! ## Machine words -/

/-- A signed word is read from every literal in its range. -/
theorem int64?_eq_some_iff {s : List Char} {w : Int64} : int64? s = some w ↔ Writes s w.toInt := by
  rw [← literal?_eq_some_iff, int64?]
  cases hs : literal? s with
  | none => simp
  | some p =>
    have hlower := w.le_toInt
    have hupper := w.toInt_lt
    simp only [Option.some.injEq]
    constructor
    · intro h
      split at h
      · next hp =>
        cases h
        rw [Int64.toInt_ofInt_of_le (by omega) (by omega)]
      · cases h
    · rintro rfl
      rw [if_pos (by omega), Int64.ofInt_toInt]

theorem int64?_of_writes {s : List Char} {p : ℤ} (h : Writes s p) (hlower : -2 ^ 63 ≤ p)
    (hupper : p < 2 ^ 63) : int64? s = some (Int64.ofInt p) := by
  rw [int64?_eq_some_iff, Int64.toInt_ofInt_of_le hlower hupper]
  exact h

/-- No signed word is read from anything but a literal in its range. -/
theorem int64?_eq_none {s : List Char} (h : ∀ p, Writes s p → ¬ (-2 ^ 63 ≤ p ∧ p < 2 ^ 63)) :
    int64? s = none := by
  cases hs : int64? s with
  | none => rfl
  | some w => exact absurd ⟨w.le_toInt, w.toInt_lt⟩ (h _ (int64?_eq_some_iff.1 hs))

/-- An unsigned word is read from every literal in its range that has no minus sign. -/
theorem uint64?_eq_some_iff {s : List Char} {w : UInt64} :
    uint64? s = some w ↔ Writes s w.toNat ∧ s.head? ≠ some '-' := by
  rw [← natural?_eq_some_iff, uint64?]
  cases hs : natural? s with
  | none => simp
  | some n =>
    have hupper := w.toNat_lt
    simp only [Option.some.injEq]
    constructor
    · intro h
      split at h
      · next hn =>
        cases h
        exact (UInt64.toNat_ofNat_of_lt' hn).symm
      · cases h
    · rintro rfl
      rw [if_pos hupper, UInt64.ofNat_toNat]

theorem uint64?_of_writes {s : List Char} {n : ℕ} (h : Writes s n) (hminus : s.head? ≠ some '-')
    (hupper : n < 2 ^ 64) : uint64? s = some (UInt64.ofNat n) := by
  rw [uint64?_eq_some_iff, UInt64.toNat_ofNat_of_lt' hupper]
  exact ⟨h, hminus⟩

/-- A literal with a minus sign is not read as an unsigned word, whatever it stands for. -/
theorem uint64?_of_minus {s : List Char} (hminus : s.head? = some '-') : uint64? s = none := by
  cases hs : uint64? s with
  | none => rfl
  | some w => exact absurd hminus (uint64?_eq_some_iff.1 hs).2

/-! ## Canonical literals -/

/-- A literal without a plus sign and without leading zeros; a zero has no minus sign either. -/
inductive IsCanonical : List Char → Prop where
  | zero : IsCanonical ['0']
  | positive {digits : List Char} :
    IsDigits digits → digits.head? ≠ some '0' → IsCanonical digits
  | negative {digits : List Char} :
    IsDigits digits → digits.head? ≠ some '0' → IsCanonical ('-' :: digits)

theorem decimal_concat (digits : List Char) (c : Char) :
    decimal (digits ++ [c]) = 10 * decimal digits + digitValue c := by
  simp [decimal, Nat.ofDigits_cons, Nat.add_comm]

theorem digitValue_lt {c : Char} (h : c.isDigit = true) : digitValue c < 10 := by
  have hrange : 48 ≤ c.toNat ∧ c.toNat ≤ 57 := Char.isDigit_iff_toNat.1 h
  rw [digitValue]
  omega

theorem digitChar_digitValue {c : Char} (h : c.isDigit = true) : Nat.digitChar (digitValue c) = c := by
  have hrange : 48 ≤ c.toNat ∧ c.toNat ≤ 57 := Char.isDigit_iff_toNat.1 h
  apply Char.toNat_inj.1
  rw [Nat.toNat_digitChar_of_lt_ten (digitValue_lt h), digitValue]
  omega

theorem digitValue_eq_zero_iff {c : Char} (h : c.isDigit = true) : digitValue c = 0 ↔ c = '0' := by
  constructor
  · intro hvalue
    rw [← digitChar_digitValue h, hvalue]
    rfl
  · rintro rfl
    rfl

/-- Digits without a leading zero write a positive number, and are its decimal digits. -/
theorem ofNat_decimal {digits : List Char} (h : IsDigits digits) (hzero : digits.head? ≠ some '0') :
    0 < decimal digits ∧ ofNat (decimal digits) = digits := by
  induction digits using List.reverseRecOn with
  | nil => exact absurd rfl h.1
  | append_singleton ds c ih =>
    have hc : c.isDigit = true := h.2 c (by simp)
    rw [decimal_concat, ofNat]
    by_cases hds : ds = []
    · subst hds
      have hpos : digitValue c ≠ 0 := by
        intro hvalue
        rw [← digitChar_digitValue hc, hvalue] at hzero
        exact hzero rfl
      have hsingle : 10 * decimal [] + digitValue c = digitValue c := by simp [decimal]
      rw [hsingle, Nat.toDigits_of_lt_base (digitValue_lt hc), digitChar_digitValue hc]
      exact ⟨Nat.pos_of_ne_zero hpos, rfl⟩
    · have hhead : ds.head? ≠ some '0' := by
        obtain ⟨d, rest, rfl⟩ := List.exists_cons_of_ne_nil hds
        exact hzero
      obtain ⟨hpos, hdigits⟩ := ih ⟨hds, fun d hd => h.2 d (by simp [hd])⟩ hhead
      rw [← Nat.toDigits_append_toDigits (by decide) hpos (digitValue_lt hc), ← ofNat, hdigits,
        Nat.toDigits_of_lt_base (digitValue_lt hc), digitChar_digitValue hc]
      exact ⟨by omega, rfl⟩

/-- A canonical literal is the shortest literal of an integer. -/
theorem IsCanonical.exists_ofInt {s : List Char} (h : IsCanonical s) : ∃ p, s = ofInt p := by
  cases h with
  | zero => exact ⟨0, rfl⟩
  | positive hdigits hzero => exact ⟨decimal s, (ofNat_decimal hdigits hzero).2.symm⟩
  | @negative digits hdigits hzero =>
    obtain ⟨hpos, hofNat⟩ := ofNat_decimal hdigits hzero
    refine ⟨Int.negSucc (decimal digits - 1), ?_⟩
    rw [ofInt, Nat.sub_add_cancel hpos, hofNat]

theorem writes_ofInt (p : ℤ) : Writes (ofInt p) p :=
  literal?_eq_some_iff.1 (literal?_ofInt p)

end RecordCheck.Numeral
