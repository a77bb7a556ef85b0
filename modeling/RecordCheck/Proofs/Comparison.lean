import RecordCheck.Builtin
import RecordCheck.Proofs.Literal

/-!
# Comparing integers with parameters

An integer is compared with a parameter as two integers are, as long as the parameter is a literal
within the reach of its kind: 64 bits for a signed integer, and for an unsigned one both ranges
together.  There is one exception: an unsigned zero is found greater than a zero that is written with
a minus sign.  A bound of `min` or `max` is within the reach of signed integers for every kind.

* `Number.Reaches` — the integers with which a number is compared.
* `Number.compareParam?_of_writes`, `Number.compareParam?_of_not_writes` — what a comparison comes to.
* `Builtin.ComparesAs` — the six comparison rules as the six relations between integers.
* `Number.compareParam?_of_integer` — when an integer is compared as integers are, and
  `Number.compareParam?_minus_zero` — not always.
* `Builtin.bounds_of_integer` — when `min` and `max` are `gte` and `lte`, and
  `Builtin.min_beyond_signed` — not always.
-/

namespace RecordCheck

open Numeral (Writes)

/-! ## Numbers -/

namespace Number

/-- The integer that a number of an integer kind is. -/
def integer? : Number → Option ℤ
  | .int n => some n.toInt
  | .uint n => some n.toNat
  | .float _ => none

/-- The integers with which a number is compared. -/
def Reaches : Number → ℤ → Prop
  | .int _, p => -2 ^ 63 ≤ p ∧ p < 2 ^ 63
  | .uint _, p => -2 ^ 63 ≤ p ∧ p < 2 ^ 64
  | .float _, _ => False

/-- The unsigned number zero, and a parameter that writes zero with a minus sign. -/
def MeetsMinusZero (n : Number) (param : List Char) : Prop :=
  n = .uint 0 ∧ param.head? = some '-' ∧ Writes param 0

theorem compare_natCast (a b : ℕ) : compare (a : ℤ) (b : ℤ) = compare a b := by
  obtain h | h | h := Nat.lt_trichotomy a b
  · rw [Nat.compare_eq_lt.2 h, Int.compare_eq_lt.2 (Int.ofNat_lt.2 h)]
  · rw [Nat.compare_eq_eq.2 h, Int.compare_eq_eq.2 (Int.ofNat_inj.2 h)]
  · rw [Nat.compare_eq_gt.2 h, Int.compare_eq_gt.2 (Int.ofNat_lt.2 h)]

variable {param : List Char} {p : ℤ}

theorem compareParam?_int (n : Int64) (h : Writes param p) (hp : Reaches (.int n) p) :
    compareParam? (.int n) param = some (compare n.toInt p) := by
  rw [compareParam?, Numeral.int64?_of_writes h hp.1 hp.2, Option.map_some,
    Int64.toInt_ofInt_of_le hp.1 hp.2]

/-- Without a minus sign, the parameter is read as an unsigned word. -/
theorem compareParam?_uint_of_not_minus (n : UInt64) (h : Writes param p)
    (hp : Reaches (.uint n) p) (hminus : param.head? ≠ some '-') :
    compareParam? (.uint n) param = some (compare (n.toNat : ℤ) p) := by
  obtain ⟨m, rfl⟩ := Int.eq_ofNat_of_zero_le (h.nonneg hminus)
  have hm : m < 2 ^ 64 := by exact_mod_cast hp.2
  simp only [compareParam?, Numeral.uint64?_of_writes h hminus hm]
  rw [UInt64.toNat_ofNat_of_lt' hm, compare_natCast]

/-- With a minus sign, any number is found greater. -/
theorem compareParam?_uint_of_minus (n : UInt64) (h : Writes param p) (hp : Reaches (.uint n) p)
    (hminus : param.head? = some '-') : compareParam? (.uint n) param = some .gt := by
  have hupper : p < 2 ^ 63 := by
    have hle := h.nonpos hminus
    omega
  simp only [compareParam?, Numeral.uint64?_of_minus hminus,
    Numeral.int64?_of_writes h hp.1 hupper, Option.map_some]

/-- A number is compared with a parameter within its reach as two integers are, a zero with a minus
sign apart. -/
theorem compareParam?_of_writes {n : Number} {v : ℤ} (hv : n.integer? = some v)
    (h : Writes param p) (hp : n.Reaches p) (hzero : ¬ n.MeetsMinusZero param) :
    n.compareParam? param = some (compare v p) := by
  cases n with
  | int n =>
    cases hv
    exact compareParam?_int n h hp
  | uint n =>
    cases hv
    by_cases hminus : param.head? = some '-'
    · have hle := h.nonpos hminus
      have hlt : p < n.toNat := by
        by_contra hge
        have hp0 : p = 0 := by omega
        have hn0 : n = 0 := UInt64.toNat_inj.1 (by rw [UInt64.toNat_zero]; omega)
        subst hp0 hn0
        exact hzero ⟨rfl, hminus, h⟩
      rw [compareParam?_uint_of_minus n h hp hminus, Int.compare_eq_gt.2 hlt]
    · exact compareParam?_uint_of_not_minus n h hp hminus
  | float => cases hv

theorem compareParam?_of_meetsMinusZero {n : Number} (h : n.MeetsMinusZero param) :
    n.compareParam? param = some .gt := by
  obtain ⟨rfl, hminus, hwrites⟩ := h
  exact compareParam?_uint_of_minus 0 hwrites ⟨by norm_num, by norm_num⟩ hminus

/-- An integer is not compared with anything but a literal within its reach. -/
theorem compareParam?_of_not_writes {n : Number} {v : ℤ} (hv : n.integer? = some v)
    (h : ∀ p, Writes param p → ¬ n.Reaches p) : n.compareParam? param = none := by
  cases n with
  | int n => rw [compareParam?, Numeral.int64?_eq_none h, Option.map_none]
  | uint n =>
    have hunsigned : Numeral.uint64? param = none := by
      cases hw : Numeral.uint64? param with
      | none => rfl
      | some w =>
        have hupper := w.toNat_lt
        have hwrites := (Numeral.uint64?_eq_some_iff.1 hw).1
        exact absurd ⟨by omega, by omega⟩ (h _ hwrites)
    have hsigned : Numeral.int64? param = none :=
      Numeral.int64?_eq_none fun p hp hrange => h p hp ⟨hrange.1, by omega⟩
    simp only [compareParam?, hunsigned, hsigned, Option.map_none]
  | float => cases hv

end Number

/-! ## The six comparison rules -/

namespace Builtin

/-- How the number of a field may compare with the parameter of a comparison rule. -/
def accepts? : Builtin → Option (Ordering → Bool)
  | .eq => some (· == .eq)
  | .ne => some (· != .eq)
  | .gt => some (· == .gt)
  | .gte => some (· != .lt)
  | .lt => some (· == .lt)
  | .lte => some (· != .gt)
  | _ => none

/-- The comparison rules say of a view and a parameter what the six relations say of two integers. -/
structure ComparesAs (w : View) (param : List Char) (v p : ℤ) : Prop where
  eq : Builtin.eq.holds w param = decide (v = p)
  ne : Builtin.ne.holds w param = decide (v ≠ p)
  gt : Builtin.gt.holds w param = decide (v > p)
  gte : Builtin.gte.holds w param = decide (v ≥ p)
  lt : Builtin.lt.holds w param = decide (v < p)
  lte : Builtin.lte.holds w param = decide (v ≤ p)

variable {w : View} {n : Number} (hw : Number.ofView? w = some n)

include hw

/-- The view of a number is not optional. -/
theorem holds_of_number (b : Builtin) (param : List Char) :
    b.holds w param = b.check w param := by
  cases w with
  | int => rfl
  | uint => rfl
  | float => rfl
  | _ => cases hw

theorem compares_of_number (accept : Ordering → Bool) (param : List Char) :
    compares accept w param = (n.compareParam? param).any accept := by
  rw [compares, hw, Option.bind_some]

theorem isEqual_of_number (param : List Char) :
    isEqual w param = compares (· == .eq) w param := by
  cases w with
  | text => cases hw
  | _ => rfl

theorem isUnequal_of_number (param : List Char) :
    isUnequal w param = compares (· != .eq) w param := by
  cases w with
  | text => cases hw
  | _ => rfl

/-- A comparison rule accepts a number by how it compares with the parameter. -/
theorem holds_of_accepts? {b : Builtin} {accept : Ordering → Bool} (hb : b.accepts? = some accept)
    (param : List Char) : b.holds w param = (n.compareParam? param).any accept := by
  have hcheck : b.check w param = compares accept w param := by
    cases b with
    | eq => cases hb; exact isEqual_of_number hw param
    | ne => cases hb; exact isUnequal_of_number hw param
    | gt => cases hb; rfl
    | gte => cases hb; rfl
    | lt => cases hb; rfl
    | lte => cases hb; rfl
    | _ => cases hb
  rw [holds_of_number hw, hcheck, compares_of_number hw]

theorem holds_of_compareParam?_none {b : Builtin} (hb : b.accepts?.isSome) {param : List Char}
    (h : n.compareParam? param = none) : b.holds w param = false := by
  obtain ⟨accept, haccept⟩ := Option.isSome_iff_exists.1 hb
  rw [holds_of_accepts? hw haccept, h, Option.any_none]

/-- When a number compares with the parameter as two integers do, so do the rules. -/
theorem comparesAs_of_compareParam? {param : List Char} {v p : ℤ}
    (h : n.compareParam? param = some (compare v p)) : ComparesAs w param v p := by
  have hrule {b : Builtin} {accept : Ordering → Bool} (hb : b.accepts? = some accept) :
      b.holds w param = accept (compare v p) := by
    rw [holds_of_accepts? hw hb, h, Option.any_some]
  constructor
  case eq => rw [hrule rfl, Bool.eq_iff_iff, beq_iff_eq, decide_eq_true_iff, Int.compare_eq_eq]
  case ne => rw [hrule rfl, Bool.eq_iff_iff, bne_iff_ne, decide_eq_true_iff, Ne, Int.compare_eq_eq]
  case gt => rw [hrule rfl, Bool.eq_iff_iff, beq_iff_eq, decide_eq_true_iff, Int.compare_eq_gt]
  case lt => rw [hrule rfl, Bool.eq_iff_iff, beq_iff_eq, decide_eq_true_iff, Int.compare_eq_lt]
  case gte =>
    rw [hrule rfl, Bool.eq_iff_iff, bne_iff_ne, decide_eq_true_iff, Ne, Int.compare_eq_lt,
      Int.not_lt]
  case lte =>
    rw [hrule rfl, Bool.eq_iff_iff, bne_iff_ne, decide_eq_true_iff, Ne, Int.compare_eq_gt,
      Int.not_lt]

/-! ## Bounds -/

/-- A bound of a number is a literal within the reach of signed integers. -/
theorem bounds_of_number (accept : Ordering → Bool) (param : List Char) :
    bounds accept w param =
      ((Numeral.int64? param).isSome && (n.compareParam? param).any accept) := by
  have hmeasure : measure? w = none := by
    cases w with
    | int => rfl
    | uint => rfl
    | float => rfl
    | _ => cases hw
  cases hp : Numeral.int64? param with
  | none => simp only [bounds, hp, Option.isSome_none, Bool.false_and]
  | some limit =>
    simp only [bounds, hp, hmeasure, Option.isSome_some, Bool.true_and]
    exact compares_of_number hw accept param

theorem min_of_number (param : List Char) :
    Builtin.min.holds w param =
      ((Numeral.int64? param).isSome && Builtin.gte.holds w param) := by
  rw [holds_of_number hw, holds_of_accepts? hw rfl]
  exact bounds_of_number hw (· != .lt) param

theorem max_of_number (param : List Char) :
    Builtin.max.holds w param =
      ((Numeral.int64? param).isSome && Builtin.lte.holds w param) := by
  rw [holds_of_number hw, holds_of_accepts? hw rfl]
  exact bounds_of_number hw (· != .gt) param

end Builtin

/-! ## Integers -/

/-- **When an integer is compared with a parameter as integers are.**  If the parameter is a literal
within the reach of the kind, the comparison is that of the two integers, and the six comparison rules
are the six relations between them; the only exception is an unsigned zero and a zero with a minus
sign, where the number is found greater.  With any other parameter there is no comparison, and all
six rules fail. -/
theorem Number.compareParam?_of_integer {n : Number} {v : ℤ} (hv : n.integer? = some v)
    (param : List Char) :
    (∀ p, Writes param p → n.Reaches p → ¬ n.MeetsMinusZero param →
      n.compareParam? param = some (compare v p) ∧
      ∀ w, ofView? w = some n → Builtin.ComparesAs w param v p) ∧
    (n.MeetsMinusZero param → n.compareParam? param = some .gt) ∧
    ((∀ p, Writes param p → ¬ n.Reaches p) →
      n.compareParam? param = none ∧
      ∀ w, ofView? w = some n → ∀ b : Builtin, b.accepts?.isSome → b.holds w param = false) := by
  refine ⟨?_, compareParam?_of_meetsMinusZero, ?_⟩
  · intro p hwrites hp hzero
    have hcompare := compareParam?_of_writes hv hwrites hp hzero
    exact ⟨hcompare, fun w hw => Builtin.comparesAs_of_compareParam? hw hcompare⟩
  · intro hnot
    have hcompare := compareParam?_of_not_writes hv hnot
    exact ⟨hcompare, fun w hw b hb => Builtin.holds_of_compareParam?_none hw hb hcompare⟩

/-- The largest unsigned integer equals itself with a sign and a leading zero; for a signed integer
this is beyond its reach. -/
theorem Number.compareParam?_of_integer_largest :
    Number.compareParam? (.uint 18446744073709551615) "+018446744073709551615".toList =
      some .eq ∧
    Builtin.ComparesAs (.uint 18446744073709551615) "+018446744073709551615".toList
      18446744073709551615 18446744073709551615 ∧
    Number.compareParam? (.int 5) "+018446744073709551615".toList = none := by
  have hwrites : Writes "+018446744073709551615".toList 18446744073709551615 :=
    Numeral.literal?_eq_some_iff.1 rfl
  have hzero : ¬ MeetsMinusZero (.uint 18446744073709551615) "+018446744073709551615".toList := by
    rintro ⟨-, hminus, -⟩
    cases hminus
  have hinteger : integer? (.uint 18446744073709551615) = some 18446744073709551615 := by decide
  have hunsigned := (compareParam?_of_integer hinteger "+018446744073709551615".toList).1 _ hwrites
    ⟨by norm_num, by norm_num⟩ hzero
  refine ⟨hunsigned.1.trans (by decide), hunsigned.2 _ rfl, ?_⟩
  refine ((compareParam?_of_integer (n := .int 5) rfl _).2.2 fun p hp hreach => ?_).1
  have hrange := hreach.2
  rw [hp.unique hwrites] at hrange
  norm_num at hrange

/-- An unsigned zero does not equal a zero with a minus sign, though it is within its reach. -/
theorem Number.compareParam?_minus_zero :
    ¬ ∀ (n : Number) (v p : ℤ) (param : List Char), n.integer? = some v → Writes param p →
      n.Reaches p → n.compareParam? param = some (compare v p) := by
  intro h
  have hwrites : Writes "-0".toList 0 := Numeral.literal?_eq_some_iff.1 rfl
  have hzero : Number.compareParam? (.uint 0) "-0".toList = some .eq :=
    h (.uint 0) 0 0 _ rfl hwrites ⟨by norm_num, by norm_num⟩
  have hgreater : Number.compareParam? (.uint 0) "-0".toList = some .gt := rfl
  rw [hgreater] at hzero
  cases hzero

/-- **When `min` is `gte` and `max` is `lte`.**  For a parameter that is a literal within the reach of
signed integers, the verdicts on an integer are the same.  Beyond that, as far as unsigned integers
reach, `gte` and `lte` still compare, but `min` and `max` fail whatever the integer is.  With any other
parameter all four fail. -/
theorem Builtin.bounds_of_integer {w : View} {n : Number} {v : ℤ}
    (hw : Number.ofView? w = some n) (hv : n.integer? = some v) (param : List Char) :
    (∀ p, Writes param p → -2 ^ 63 ≤ p → p < 2 ^ 63 →
      Builtin.min.holds w param = Builtin.gte.holds w param ∧
      Builtin.max.holds w param = Builtin.lte.holds w param) ∧
    (∀ p, Writes param p → n.Reaches p → 2 ^ 63 ≤ p →
      Builtin.min.holds w param = false ∧ Builtin.max.holds w param = false ∧
      Builtin.gte.holds w param = decide (v ≥ p) ∧ Builtin.lte.holds w param = decide (v ≤ p)) ∧
    ((∀ p, Writes param p → ¬ n.Reaches p) →
      Builtin.min.holds w param = false ∧ Builtin.max.holds w param = false ∧
      Builtin.gte.holds w param = false ∧ Builtin.lte.holds w param = false) := by
  refine ⟨?_, ?_, ?_⟩
  · intro p hwrites hlower hupper
    rw [min_of_number hw, max_of_number hw, Numeral.int64?_of_writes hwrites hlower hupper]
    exact ⟨rfl, rfl⟩
  · intro p hwrites hp hbeyond
    have hword : Numeral.int64? param = none := by
      refine Numeral.int64?_eq_none fun q hq hrange => ?_
      rw [hq.unique hwrites] at hrange
      omega
    have hzero : ¬ n.MeetsMinusZero param := by
      rintro ⟨-, -, hzero⟩
      rw [hwrites.unique hzero] at hbeyond
      norm_num at hbeyond
    have hcompares := comparesAs_of_compareParam? hw
      (Number.compareParam?_of_writes hv hwrites hp hzero)
    rw [min_of_number hw, max_of_number hw, hword]
    exact ⟨rfl, rfl, hcompares.gte, hcompares.lte⟩
  · intro hnot
    have hcompare := Number.compareParam?_of_not_writes hv hnot
    have hgte : Builtin.gte.holds w param = false :=
      holds_of_compareParam?_none hw rfl hcompare
    have hlte : Builtin.lte.holds w param = false :=
      holds_of_compareParam?_none hw rfl hcompare
    rw [min_of_number hw, max_of_number hw, hgte, hlte, Bool.and_false]
    exact ⟨rfl, rfl, rfl, rfl⟩

/-- The three cases for one unsigned integer. -/
theorem Builtin.bounds_of_integer_largest :
    Builtin.min.holds (.uint 18446744073709551615) "+0042".toList =
      Builtin.gte.holds (.uint 18446744073709551615) "+0042".toList ∧
    Builtin.min.holds (.uint 18446744073709551615) "9223372036854775808".toList = false ∧
    Builtin.gte.holds (.uint 18446744073709551615) "9223372036854775808".toList = true ∧
    Builtin.lte.holds (.uint 18446744073709551615) "4.2".toList = false := by
  have h := bounds_of_integer (w := .uint 18446744073709551615) rfl rfl
  have hbeyond := (h "9223372036854775808".toList).2.1 9223372036854775808
    (Numeral.literal?_eq_some_iff.1 rfl) ⟨by norm_num, by norm_num⟩ (by norm_num)
  refine ⟨?_, hbeyond.1, hbeyond.2.2.1.trans (by decide), ?_⟩
  · exact ((h "+0042".toList).1 42 (Numeral.literal?_eq_some_iff.1 rfl) (by norm_num)
      (by norm_num)).1
  · refine ((h "4.2".toList).2.2 fun p hp => ?_).2.2.2
    have hnone : Numeral.literal? "4.2".toList = none := rfl
    rw [← Numeral.literal?_eq_some_iff, hnone] at hp
    cases hp

/-- An unsigned integer that is at least a bound beyond the reach of signed integers does not satisfy
it. -/
theorem Builtin.min_beyond_signed :
    ¬ ∀ (w : View) (n : Number) (v p : ℤ) (param : List Char), Number.ofView? w = some n →
      n.integer? = some v → Writes param p → n.Reaches p →
        Builtin.min.holds w param = Builtin.gte.holds w param ∧
        Builtin.max.holds w param = Builtin.lte.holds w param := by
  intro h
  have hwrites : Writes "9223372036854775808".toList 9223372036854775808 :=
    Numeral.literal?_eq_some_iff.1 rfl
  have hsame := (h (.uint 18446744073709551615) _ 18446744073709551615 _ _ rfl rfl hwrites
    ⟨by norm_num, by norm_num⟩).1
  have hmin : Builtin.min.holds (.uint 18446744073709551615) "9223372036854775808".toList =
    false := rfl
  have hgte : Builtin.gte.holds (.uint 18446744073709551615) "9223372036854775808".toList =
    true := rfl
  rw [hmin, hgte] at hsame
  cases hsame

end RecordCheck
