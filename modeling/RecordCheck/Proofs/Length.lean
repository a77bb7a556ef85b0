import RecordCheck.Proofs.Literal
import RecordCheck.Proofs.Optional

/-!
# Bounds on lengths

The rules `min`, `max` and `len` compare what a view measures with their parameter: the number of
characters of a text, or the number of elements of a sequence or a map.  This number is an unsigned
word.  `len` compares it as it is, but `min` and `max` take it for a signed word, so from `2 ^ 63` up
they see a negative number.

* `View.Counts` — what a view measures, as a natural number.
* `Builtin.signedCount` — the number that `min` and `max` see.
* `Builtin.size_bounds` — the verdicts of the three rules, and when they agree;
  `Builtin.min_of_large_count` — that a large collection fails a bound that it exceeds.
-/

namespace RecordCheck

open Numeral (Writes)

/-- `w.Counts c`: the view `w` is a text of `c` characters, or a sequence or map of `c` elements.  A
text fits in the memory, so the number of its characters is an unsigned word too. -/
inductive View.Counts : View → ℕ → Prop where
  | text {s : String} : s.length < 2 ^ 64 → Counts (.text s) s.length
  | sequence (count : UInt64) : Counts (.sequence count) count.toNat
  | map (count : UInt64) : Counts (.map count) count.toNat

namespace Builtin

/-! ## Counts as signed words -/

/-- A count as `min` and `max` see it: the signed word of the same bits. -/
def signedCount (c : ℕ) : ℤ :=
  if c < 2 ^ 63 then c else c - 2 ^ 64

theorem toInt_toInt64 (count : UInt64) : count.toInt64.toInt = signedCount count.toNat := by
  have hbits : count.toInt64.toInt = count.toBitVec.toInt := rfl
  rw [hbits, BitVec.toInt_eq_toNat_cond, signedCount, UInt64.toNat_toBitVec]
  have hhalf : 2 * count.toNat < 2 ^ 64 ↔ count.toNat < 2 ^ 63 := by omega
  simp only [hhalf]
  norm_num

theorem signedCount_of_lt {c : ℕ} (h : c < 2 ^ 63) : signedCount c = c :=
  if_pos h

theorem signedCount_of_le {c : ℕ} (h : 2 ^ 63 ≤ c) : signedCount c = c - 2 ^ 64 :=
  if_neg (Nat.not_lt.2 h)

variable {w : View} {c : ℕ}

theorem measure?_of_counts (h : w.Counts c) :
    ∃ count, measure? w = some count ∧ count.toNat = c := by
  cases h with
  | text hlength => exact ⟨_, rfl, UInt64.toNat_ofNat_of_lt' hlength⟩
  | sequence count => exact ⟨count, rfl, rfl⟩
  | map count => exact ⟨count, rfl, rfl⟩

theorem lt_of_counts (h : w.Counts c) : c < 2 ^ 64 := by
  obtain ⟨count, -, rfl⟩ := measure?_of_counts h
  exact count.toNat_lt

theorem holds_of_counts (h : w.Counts c) (b : Builtin) (param : List Char) :
    b.holds w param = b.check w param := by
  apply holds_of_not_optional
  cases h <;> rfl

/-! ## The three rules -/

variable {param : List Char}

theorem bounds_of_counts (h : w.Counts c) (accept : Ordering → Bool) {p : ℤ}
    (hwrites : Writes param p) (hlower : -2 ^ 63 ≤ p) (hupper : p < 2 ^ 63) :
    bounds accept w param = accept (compare (signedCount c) p) := by
  obtain ⟨count, hmeasure, rfl⟩ := measure?_of_counts h
  simp only [bounds, Numeral.int64?_of_writes hwrites hlower hupper, hmeasure, toInt_toInt64,
    Int64.toInt_ofInt_of_le hlower hupper]

theorem min_of_counts (h : w.Counts c) {p : ℤ} (hwrites : Writes param p) (hlower : -2 ^ 63 ≤ p)
    (hupper : p < 2 ^ 63) : Builtin.min.holds w param = decide (signedCount c ≥ p) := by
  have hrule : Builtin.min.check w param = bounds (· != .lt) w param := rfl
  rw [holds_of_counts h, hrule, bounds_of_counts h _ hwrites hlower hupper, Bool.eq_iff_iff,
    bne_iff_ne, decide_eq_true_iff, Ne, Int.compare_eq_lt, Int.not_lt]

theorem max_of_counts (h : w.Counts c) {p : ℤ} (hwrites : Writes param p) (hlower : -2 ^ 63 ≤ p)
    (hupper : p < 2 ^ 63) : Builtin.max.holds w param = decide (signedCount c ≤ p) := by
  have hrule : Builtin.max.check w param = bounds (· != .gt) w param := rfl
  rw [holds_of_counts h, hrule, bounds_of_counts h _ hwrites hlower hupper, Bool.eq_iff_iff,
    bne_iff_ne, decide_eq_true_iff, Ne, Int.compare_eq_gt, Int.not_lt]

/-- A bound that is no literal of a signed word is not met. -/
theorem bounds_of_not_writes (accept : Ordering → Bool) (w : View)
    (h : ∀ p, Writes param p → ¬ (-2 ^ 63 ≤ p ∧ p < 2 ^ 63)) : bounds accept w param = false := by
  simp only [bounds, Numeral.int64?_eq_none h]

/-- The rule `len` compares unsigned words, so it is exact. -/
theorem len_holds_iff (h : w.Counts c) :
    Builtin.len.holds w param = true ↔ Writes param c ∧ param.head? ≠ some '-' := by
  have hrule : Builtin.len.check w param = hasLength w param := rfl
  obtain ⟨count, hmeasure, rfl⟩ := measure?_of_counts h
  rw [holds_of_counts h, hrule, ← Numeral.uint64?_eq_some_iff]
  cases hparam : Numeral.uint64? param with
  | none => simp [hasLength, hparam]
  | some expected =>
    simp only [hasLength, hmeasure, hparam]
    rw [beq_iff_eq, Option.some_inj, eq_comm]

/-- An unsigned literal below `2 ^ 63` is read as a signed word too.  A count from `2 ^ 63` up differs
from it both as an unsigned and as a signed word, so the three rules agree on these counts as well. -/
theorem len_eq_min_and_max (h : w.Counts c) {q : UInt64} (hq : Numeral.uint64? param = some q)
    (hsmall : q.toNat < 2 ^ 63) :
    Builtin.len.holds w param =
      (Builtin.min.holds w param && Builtin.max.holds w param) := by
  obtain ⟨hwrites, hminus⟩ := Numeral.uint64?_eq_some_iff.1 hq
  have hlength : Builtin.len.holds w param = true ↔ c = q.toNat := by
    rw [len_holds_iff h, and_iff_left hminus]
    constructor
    · exact fun hc => Int.ofNat_inj.1 (hc.unique hwrites)
    · rintro rfl
      exact hwrites
  have hcount : c = q.toNat ↔ signedCount c = q.toNat := by
    have hword := lt_of_counts h
    rw [signedCount]
    split <;> omega
  rw [min_of_counts h hwrites (by omega) (by omega), max_of_counts h hwrites (by omega) (by omega),
    Bool.eq_iff_iff, hlength, hcount, Bool.and_eq_true, decide_eq_true_iff, decide_eq_true_iff]
  omega

/-- **What the size rules say of a count.**  For a parameter that is a literal within the reach of
signed words, `min` and `max` compare a count below `2 ^ 63` as integers are; a count from there up
they take for the negative number that is `2 ^ 64` less.  With any other parameter they fail.  The rule
`len` holds of any count just for the literals without a minus sign that stand for it.  If a parameter
is an unsigned literal below `2 ^ 63`, `len` holds when `min` and `max` both do. -/
theorem size_bounds (h : w.Counts c) (param : List Char) :
    (c < 2 ^ 63 → ∀ p, Writes param p → -2 ^ 63 ≤ p → p < 2 ^ 63 →
      Builtin.min.holds w param = decide ((c : ℤ) ≥ p) ∧
      Builtin.max.holds w param = decide ((c : ℤ) ≤ p)) ∧
    (2 ^ 63 ≤ c → ∀ p, Writes param p → -2 ^ 63 ≤ p → p < 2 ^ 63 →
      Builtin.min.holds w param = decide ((c : ℤ) - 2 ^ 64 ≥ p) ∧
      Builtin.max.holds w param = decide ((c : ℤ) - 2 ^ 64 ≤ p)) ∧
    ((∀ p, Writes param p → ¬ (-2 ^ 63 ≤ p ∧ p < 2 ^ 63)) →
      Builtin.min.holds w param = false ∧ Builtin.max.holds w param = false) ∧
    (Builtin.len.holds w param = true ↔ Writes param c ∧ param.head? ≠ some '-') ∧
    (∀ q, Numeral.uint64? param = some q → q.toNat < 2 ^ 63 →
      Builtin.len.holds w param =
        (Builtin.min.holds w param && Builtin.max.holds w param)) := by
  refine ⟨?_, ?_, ?_, len_holds_iff h, fun q hq => len_eq_min_and_max h hq⟩
  · intro hsmall p hwrites hlower hupper
    rw [min_of_counts h hwrites hlower hupper, max_of_counts h hwrites hlower hupper,
      signedCount_of_lt hsmall]
    exact ⟨rfl, rfl⟩
  · intro hlarge p hwrites hlower hupper
    rw [min_of_counts h hwrites hlower hupper, max_of_counts h hwrites hlower hupper,
      signedCount_of_le hlarge]
    exact ⟨rfl, rfl⟩
  · intro hnot
    rw [holds_of_counts h, holds_of_counts h]
    exact ⟨bounds_of_not_writes (· != .lt) w hnot, bounds_of_not_writes (· != .gt) w hnot⟩

/-- A text of three characters, and a sequence of `2 ^ 63` elements. -/
theorem size_bounds_three :
    Builtin.min.holds (.text "día") "+03".toList = true ∧
    Builtin.len.holds (.text "día") "+03".toList = true ∧
    Builtin.min.holds (.sequence 9223372036854775808) "0".toList = false ∧
    Builtin.max.holds (.sequence 9223372036854775808) "0".toList = true ∧
    Builtin.max.holds (.sequence 9223372036854775808) "9223372036854775808".toList = false := by
  have hthree : Writes "+03".toList 3 := Numeral.literal?_eq_some_iff.1 rfl
  have hzero : Writes "0".toList 0 := Numeral.literal?_eq_some_iff.1 rfl
  have hbeyond : Writes "9223372036854775808".toList 9223372036854775808 :=
    Numeral.literal?_eq_some_iff.1 rfl
  have htext := size_bounds (.text (s := "día") (by decide)) "+03".toList
  have hsequence := size_bounds (.sequence 9223372036854775808)
  have hlarge := (hsequence "0".toList).2.1 (by decide) 0 hzero (by norm_num) (by norm_num)
  refine ⟨?_, ?_, ?_, ?_, ?_⟩
  · exact (htext.1 (by decide) 3 hthree (by norm_num) (by norm_num)).1.trans (by decide)
  · exact htext.2.2.2.1.2 ⟨hthree, by decide⟩
  · exact hlarge.1.trans (by decide)
  · exact hlarge.2.trans (by decide)
  · refine ((hsequence _).2.2.1 fun p hp hrange => ?_).2
    rw [hp.unique hbeyond] at hrange
    omega

/-- A sequence of `2 ^ 63` elements has at least none, but does not satisfy this bound. -/
theorem min_of_large_count :
    ¬ ∀ (w : View) (c : ℕ) (p : ℤ) (param : List Char), w.Counts c → Writes param p →
      -2 ^ 63 ≤ p → p < 2 ^ 63 → Builtin.min.holds w param = decide ((c : ℤ) ≥ p) := by
  intro h
  have hzero : Writes "0".toList 0 := Numeral.literal?_eq_some_iff.1 rfl
  have hmet := h _ _ 0 _ (.sequence 9223372036854775808) hzero (by norm_num) (by norm_num)
  have hfails : Builtin.min.holds (.sequence 9223372036854775808) "0".toList = false := by decide
  rw [hfails] at hmet
  exact absurd hmet (by decide)

end Builtin

end RecordCheck
