import RecordCheck.Proofs.Choice
import RecordCheck.Proofs.Range

/-!
# Signed and unsigned integers

A number that is not negative and below `2 ^ 63` may arrive as a signed or as an unsigned integer:
the value of an unsigned field is unsigned, and the same number in a payload is signed.  The two are
compared with parameters by different readers, so it is not plain that rules judge them alike.  They
do, but for two kinds of parameters: a zero with a minus sign, which an unsigned zero is found to
exceed, and the literals that only unsigned integers reach.

* `Numeral.IsMinusZeros`, `Numeral.IsBeyondSigned` — these parameters.
* `Number.compareParam?_signed` — with all others the two comparisons come out the same.
* `Builtin.TellsSign`, `Builtin.holds_signed_iff` — a rule gives the same verdict on both, unless it
  tells them apart by such a parameter.
* `Builtin.holds_signed_eq_unsigned` — the rules and parameters for which the verdicts are the same.
-/

namespace RecordCheck

/-! ## Parameters that tell the two apart -/

namespace Numeral

/-- A minus sign and zeros, at least one. -/
def IsMinusZeros (s : List Char) : Prop :=
  ∃ k, s = '-' :: List.replicate (k + 1) '0'

/-- A literal that an unsigned word can hold and a signed one cannot. -/
def IsBeyondSigned (s : List Char) : Prop :=
  ∃ p, Writes s p ∧ 2 ^ 63 ≤ p ∧ p < 2 ^ 64

/-- Only zeros write the number zero. -/
theorem decimal_eq_zero_iff {s : List Char} (h : ∀ c ∈ s, c.isDigit = true) :
    decimal s = 0 ↔ ∀ c ∈ s, c = '0' := by
  constructor
  · intro hzero c hc
    have hvalue : digitValue c = 0 :=
      Nat.digits_zero_of_eq_zero (by decide) hzero _
        (List.mem_map_of_mem (List.mem_reverse.2 hc))
    exact (digitValue_eq_zero_iff (h c hc)).1 hvalue
  · intro hzeros
    obtain ⟨k, rfl⟩ : ∃ k, s = List.replicate k '0' :=
      ⟨s.length, List.eq_replicate_iff.2 ⟨rfl, hzeros⟩⟩
    induction k with
    | zero => rfl
    | succ k ih =>
      rw [List.replicate_succ', decimal_concat, ih]
      · rfl
      · exact fun c hc => h c (List.mem_replicate.2 ⟨by simp, List.eq_of_mem_replicate hc⟩)
      · exact fun c hc => List.eq_of_mem_replicate hc

theorem isMinusZeros_iff {s : List Char} :
    IsMinusZeros s ↔ s.head? = some '-' ∧ Writes s 0 := by
  constructor
  · rintro ⟨k, rfl⟩
    have hdigits : IsDigits (List.replicate (k + 1) '0') :=
      ⟨by simp, fun c hc => by rw [List.eq_of_mem_replicate hc]; rfl⟩
    have hwrites := Writes.minus hdigits
    rw [(decimal_eq_zero_iff hdigits.2).2 fun c hc => List.eq_of_mem_replicate hc] at hwrites
    exact ⟨rfl, hwrites⟩
  · rintro ⟨hminus, hwrites⟩
    obtain ⟨t, rfl⟩ := List.head?_eq_some_iff.1 hminus
    rw [← literal?_eq_some_iff, literal?_minus, Option.map_eq_some_iff] at hwrites
    obtain ⟨n, hn, hneg⟩ := hwrites
    obtain rfl : n = 0 := by omega
    obtain ⟨hdigits, hzero⟩ := digits?_eq_some_iff.1 hn
    obtain ⟨k, hk⟩ := Nat.exists_eq_succ_of_ne_zero (mt List.length_eq_zero_iff.1 hdigits.1)
    refine ⟨k, ?_⟩
    rw [List.cons_inj_right, List.eq_replicate_iff]
    exact ⟨hk, (decimal_eq_zero_iff hdigits.2).1 hzero⟩

/-- No literal is of both kinds. -/
theorem IsMinusZeros.not_isBeyondSigned {s : List Char} (h : IsMinusZeros s) :
    ¬ IsBeyondSigned s := by
  rintro ⟨p, hp, hlower, -⟩
  rw [hp.unique (isMinusZeros_iff.1 h).2] at hlower
  norm_num at hlower

theorem IsBeyondSigned.int64?_eq_none {s : List Char} (h : IsBeyondSigned s) : int64? s = none := by
  obtain ⟨p, hp, hlower, -⟩ := h
  refine Numeral.int64?_eq_none fun q hq hrange => ?_
  rw [hq.unique hp] at hrange
  omega

end Numeral

/-! ## Comparisons -/

open Numeral (IsMinusZeros IsBeyondSigned)

namespace Number

variable {n : ℕ} (hn : n < 2 ^ 63) {param : List Char}

include hn

theorem toNat_ofNat : (UInt64.ofNat n).toNat = n :=
  UInt64.toNat_ofNat_of_lt' (hn.trans (by norm_num))

theorem integer?_int : integer? (.int (.ofNat n)) = some (n : ℤ) := by
  rw [integer?, Int64.toInt_ofNat_of_lt hn]

theorem integer?_uint : integer? (.uint (.ofNat n)) = some (n : ℤ) := by
  rw [integer?, toNat_ofNat hn]

theorem uint_eq_zero_iff : Number.uint (.ofNat n) = .uint 0 ↔ n = 0 := by
  rw [uint.injEq, ← UInt64.toNat_inj, toNat_ofNat hn, UInt64.toNat_zero]

omit hn in
theorem not_meetsMinusZero_int (m : Int64) : ¬ MeetsMinusZero (.int m) param := by
  rintro ⟨h, -⟩
  cases h

theorem meetsMinusZero_uint_iff :
    MeetsMinusZero (.uint (.ofNat n)) param ↔ n = 0 ∧ IsMinusZeros param := by
  rw [MeetsMinusZero, uint_eq_zero_iff hn, Numeral.isMinusZeros_iff]

/-- A parameter that does not tell the two apart compares with both as with one integer, or with
neither. -/
theorem compareParam?_signed (hzero : ¬ (n = 0 ∧ IsMinusZeros param))
    (hbeyond : ¬ IsBeyondSigned param) :
    compareParam? (.int (.ofNat n)) param = compareParam? (.uint (.ofNat n)) param := by
  by_cases h : ∃ p, Numeral.Writes param p ∧ -2 ^ 63 ≤ p ∧ p < 2 ^ 63
  · obtain ⟨p, hwrites, hlower, hupper⟩ := h
    rw [compareParam?_of_writes (integer?_int hn) hwrites ⟨hlower, hupper⟩
        (not_meetsMinusZero_int _),
      compareParam?_of_writes (integer?_uint hn) hwrites ⟨hlower, by omega⟩
        (mt (meetsMinusZero_uint_iff hn).1 hzero)]
  · have hsigned : ∀ p, Numeral.Writes param p → ¬ Reaches (.int (.ofNat n)) p :=
      fun p hp hreach => h ⟨p, hp, hreach⟩
    have hunsigned : ∀ p, Numeral.Writes param p → ¬ Reaches (.uint (.ofNat n)) p := by
      intro p hp hreach
      by_cases hupper : p < 2 ^ 63
      · exact h ⟨p, hp, hreach.1, hupper⟩
      · exact hbeyond ⟨p, hp, not_lt.1 hupper, hreach.2⟩
    rw [compareParam?_of_not_writes (integer?_int hn) hsigned,
      compareParam?_of_not_writes (integer?_uint hn) hunsigned]

omit hn in
/-- The signed zero equals a zero with a minus sign, the unsigned one exceeds it. -/
theorem compareParam?_of_isMinusZeros (h : IsMinusZeros param) :
    compareParam? (.int (.ofNat 0)) param = some .eq ∧
      compareParam? (.uint (.ofNat 0)) param = some .gt := by
  have hparts := Numeral.isMinusZeros_iff.1 h
  constructor
  · exact compareParam?_int 0 hparts.2 ⟨by norm_num, by norm_num⟩
  · exact compareParam?_of_meetsMinusZero ⟨rfl, hparts⟩

/-- A literal that only unsigned integers reach compares with these alone, and is greater. -/
theorem compareParam?_of_isBeyondSigned (h : IsBeyondSigned param) :
    compareParam? (.int (.ofNat n)) param = none ∧
      compareParam? (.uint (.ofNat n)) param = some .lt := by
  obtain ⟨p, hp, hlower, hupper⟩ := h
  constructor
  · refine compareParam?_of_not_writes (integer?_int hn) fun q hq hreach => ?_
    have hq63 := hreach.2
    rw [hq.unique hp] at hq63
    omega
  · have hzero : ¬ MeetsMinusZero (.uint (.ofNat n)) param := fun hmeets =>
      ((meetsMinusZero_uint_iff hn).1 hmeets).2.not_isBeyondSigned ⟨p, hp, hlower, hupper⟩
    rw [compareParam?_of_writes (integer?_uint hn) hp ⟨by omega, hupper⟩ hzero,
      Int.compare_eq_lt.2 (by omega)]

end Number

/-! ## Rules -/

namespace Builtin

/-- The rules for which it can matter whether an integer is signed: the comparisons, and the bounds
that come down to them. -/
def ordering : List Builtin :=
  .min :: .max :: comparisons

/-- The rule tells the signed integer `n` from the unsigned one by this parameter. -/
def TellsSign (b : Builtin) (n : ℕ) (param : List Char) : Prop :=
  (n = 0 ∧ IsMinusZeros param ∧ b ∈ [Builtin.max, .eq, .ne, .gt, .lte]) ∨
    (IsBeyondSigned param ∧ b ∈ [Builtin.ne, .lt, .lte])

variable {n : ℕ} (hn : n < 2 ^ 63) {b : Builtin} {param : List Char}

/-! ### Rules that never tell the signs apart -/

include hn

theorem isGiven_signed : isGiven (.int (.ofNat n)) = isGiven (.uint (.ofNat n)) := by
  have hsigned : Int64.ofNat n = 0 ↔ n = 0 := by
    rw [← Int64.toInt_inj, Int64.toInt_ofNat_of_lt hn, Int64.toInt_zero, Int.natCast_eq_zero]
  have hunsigned : UInt64.ofNat n = 0 ↔ n = 0 := by
    rw [← UInt64.toNat_inj, Number.toNat_ofNat hn, UInt64.toNat_zero]
  rw [isGiven, isGiven, Bool.eq_iff_iff, bne_iff_ne, bne_iff_ne, Ne, Ne, hsigned, hunsigned]

/-- Of the parameters that tell the signs apart, a bound cannot be one that only unsigned integers
reach. -/
theorem bounds_signed (accept : Ordering → Bool) (hzero : ¬ (n = 0 ∧ IsMinusZeros param)) :
    bounds accept (.int (.ofNat n)) param = bounds accept (.uint (.ofNat n)) param := by
  rw [bounds_of_number rfl, bounds_of_number rfl]
  by_cases hbeyond : IsBeyondSigned param
  · rw [hbeyond.int64?_eq_none, Option.isSome_none, Bool.false_and, Bool.false_and]
  · rw [Number.compareParam?_signed hn hzero hbeyond]

/-- The bounds of a range are what is left when the hyphen is taken out, so neither has a minus
sign. -/
theorem isBetween_signed :
    isBetween (.int (.ofNat n)) param = isBetween (.uint (.ofNat n)) param := by
  have hzero {s : List Char} (hs : '-' ∉ s) : ¬ (n = 0 ∧ IsMinusZeros s) := by
    rintro ⟨-, k, rfl⟩
    exact hs (List.mem_cons_self ..)
  by_cases hcount : param.count '-' = 1
  · obtain ⟨⟨lo, hi⟩, hhalves⟩ : ∃ sides, Text.halves '-' param = some sides :=
      ⟨_, Text.halves_of_count hcount⟩
    obtain ⟨rfl, hlo, hhi⟩ := Text.halves_eq_some_iff.1 hhalves
    rw [isBetween_append hlo hhi, isBetween_append hlo hhi, atLeast, atMost,
      bounds_signed hn _ (hzero hlo), bounds_signed hn _ (hzero hhi)]
  · rw [isBetween_of_count hcount, isBetween_of_count hcount]

theorem oneof_holds_signed :
    Builtin.oneof.holds (.int (.ofNat n)) param = Builtin.oneof.holds (.uint (.ofNat n)) param := by
  rw [Bool.eq_iff_iff, oneof_holds_integer rfl (Number.integer?_int hn),
    oneof_holds_integer rfl (Number.integer?_uint hn)]

/-- Rules that do not compare are content with either, or with neither. -/
theorem holds_signed_of_not_mem (hb : b ∉ ordering) :
    b.holds (.int (.ofNat n)) param = b.holds (.uint (.ofNat n)) param := by
  cases b with
  | min | max | eq | ne | gt | gte | lt | lte => exact absurd (by decide) hb
  | required => exact isGiven_signed hn
  | range => exact isBetween_signed hn
  | oneof => exact oneof_holds_signed hn
  | _ => rfl

/-! ### Rules that compare -/

omit hn

/-- How a number may compare with the parameter of a rule of the ordering.  The bounds accept what
the comparisons `gte` and `lte` do. -/
def outcomes? : Builtin → Option (Ordering → Bool)
  | .min => Builtin.gte.accepts?
  | .max => Builtin.lte.accepts?
  | b => b.accepts?

theorem not_mem_ordering_of_outcomes? (hb : b.outcomes? = none) : b ∉ ordering := by
  cases b with
  | min | max | eq | ne | gt | gte | lt | lte => cases hb
  | _ => decide

/-- A rule of the ordering judges a number by how it compares with the parameter; bounds have to be
signed words besides. -/
theorem holds_of_outcomes? {w : View} {m : Number} (hw : Number.ofView? w = some m)
    {accept : Ordering → Bool} (hb : b.outcomes? = some accept) (param : List Char) :
    b.holds w param =
      ((decide (b ∈ comparisons) || (Numeral.int64? param).isSome) &&
        (m.compareParam? param).any accept) := by
  by_cases hcomparison : b ∈ comparisons
  · have haccept : b.accepts? = some accept := by
      rw [← hb]
      cases b with
      | min | max => exact absurd hcomparison (by decide)
      | _ => rfl
    rw [holds_of_accepts? hw haccept, decide_eq_true hcomparison, Bool.true_or, Bool.true_and]
  · rw [decide_eq_false hcomparison, Bool.false_or, holds_of_number hw]
    cases b with
    | min => cases hb; exact bounds_of_number hw (· != .lt) param
    | max => cases hb; exact bounds_of_number hw (· != .gt) param
    | eq | ne | gt | gte | lt | lte => exact absurd (by decide) hcomparison
    | _ => cases hb

/-- The rules for which it makes a difference whether a number equals the parameter or exceeds
it. -/
theorem accept_eq_gt_iff {accept : Ordering → Bool} (hb : b.outcomes? = some accept) :
    accept .eq = accept .gt ↔ b ∉ [Builtin.max, .eq, .ne, .gt, .lte] := by
  cases b with
  | min | max | eq | ne | gt | gte | lt | lte => cases hb; decide
  | _ => cases hb

/-- The rules that read parameters beyond the signed words and accept a number that is less. -/
theorem accept_lt_iff {accept : Ordering → Bool} (hb : b.outcomes? = some accept) :
    (decide (b ∈ comparisons) && accept .lt) = true ↔ b ∈ [Builtin.ne, .lt, .lte] := by
  cases b with
  | min | max | eq | ne | gt | gte | lt | lte => cases hb; decide
  | _ => cases hb

theorem TellsSign.mem_ordering (h : b.TellsSign n param) : b ∈ ordering := by
  have hequal : [Builtin.max, .eq, .ne, .gt, .lte] ⊆ ordering := by decide
  have hless : [Builtin.ne, .lt, .lte] ⊆ ordering := by decide
  exact h.elim (fun hzero => hequal hzero.2.2) (fun hbeyond => hless hbeyond.2)

theorem tellsSign_zero_iff (h : IsMinusZeros param) :
    b.TellsSign 0 param ↔ b ∈ [Builtin.max, .eq, .ne, .gt, .lte] := by
  rw [TellsSign, and_iff_right rfl, and_iff_right h,
    or_iff_left fun hb => h.not_isBeyondSigned hb.1]

theorem tellsSign_beyond_iff (h : IsBeyondSigned param) :
    b.TellsSign n param ↔ b ∈ [Builtin.ne, .lt, .lte] := by
  rw [TellsSign, and_iff_right h, or_iff_right fun hb => hb.2.1.not_isBeyondSigned h]

theorem holds_zero_signed_iff {accept : Ordering → Bool} (hb : b.outcomes? = some accept)
    (h : IsMinusZeros param) :
    b.holds (.int (.ofNat 0)) param = b.holds (.uint (.ofNat 0)) param ↔ ¬ b.TellsSign 0 param := by
  obtain ⟨hsigned, hunsigned⟩ := Number.compareParam?_of_isMinusZeros h
  have hword : (Numeral.int64? param).isSome = true := by
    have hwrites := (Numeral.isMinusZeros_iff.1 h).2
    rw [Numeral.int64?_of_writes hwrites (by norm_num) (by norm_num), Option.isSome_some]
  rw [tellsSign_zero_iff h, ← accept_eq_gt_iff hb, holds_of_outcomes? rfl hb,
    holds_of_outcomes? rfl hb, hword, Bool.or_true, Bool.true_and, Bool.true_and, hsigned,
    hunsigned, Option.any_some, Option.any_some]

include hn

theorem holds_beyond_signed_iff {accept : Ordering → Bool} (hb : b.outcomes? = some accept)
    (h : IsBeyondSigned param) :
    b.holds (.int (.ofNat n)) param = b.holds (.uint (.ofNat n)) param ↔ ¬ b.TellsSign n param := by
  obtain ⟨hsigned, hunsigned⟩ := Number.compareParam?_of_isBeyondSigned hn h
  rw [tellsSign_beyond_iff h, ← accept_lt_iff hb, holds_of_outcomes? rfl hb,
    holds_of_outcomes? rfl hb, h.int64?_eq_none, hsigned, hunsigned, Option.isSome_none,
    Bool.or_false, Option.any_none, Option.any_some, Bool.and_false, Bool.not_eq_true, eq_comm]

/-- **A rule judges a signed and an unsigned integer of one value alike, unless it tells them apart
by its parameter.** -/
theorem holds_signed_iff :
    b.holds (.int (.ofNat n)) param = b.holds (.uint (.ofNat n)) param ↔ ¬ b.TellsSign n param := by
  cases hb : b.outcomes? with
  | none =>
    have hmem := not_mem_ordering_of_outcomes? hb
    exact iff_of_true (holds_signed_of_not_mem hn hmem) fun h => hmem h.mem_ordering
  | some accept =>
    by_cases hzero : n = 0 ∧ IsMinusZeros param
    · obtain ⟨rfl, h⟩ := hzero
      exact holds_zero_signed_iff hb h
    · by_cases hbeyond : IsBeyondSigned param
      · exact holds_beyond_signed_iff hn hb hbeyond
      · rw [holds_of_outcomes? rfl hb, holds_of_outcomes? rfl hb,
          Number.compareParam?_signed hn hzero hbeyond, eq_self, true_iff]
        rintro (⟨h, hminus, -⟩ | ⟨h, -⟩)
        · exact hzero ⟨h, hminus⟩
        · exact hbeyond h

end Builtin

/-- In the snapshot of an unsigned field the number is signed if a signed word can hold it. -/
theorem Value.view_snapshot_uint {n : ℕ} (hn : n < 2 ^ 63) :
    (Value.uint (.ofNat n)).snapshot.view = .int (.ofNat n) := by
  have hfits : n < 0x8000000000000000 := hn
  rw [snapshot, Json.Number.ofUInt64, Number.toNat_ofNat hn, if_pos hfits, Json.view]

/-- **Signed and unsigned integers are judged alike.**  Let `n` be a number below `2 ^ 63`.  Every
rule gives the same verdict on it as a signed and as an unsigned integer, whatever the parameter is;
left out are, for the comparison rules and `min` and `max`, a minus sign with zeros, and for the
comparison rules also the literals from `2 ^ 63` up to `2 ^ 64`.  This is the number of an unsigned
field on one side and the number of a payload on the other: the field is seen as the unsigned
integer, and its snapshot as the signed one. -/
theorem Builtin.holds_signed_eq_unsigned {n : ℕ} (hn : n < 2 ^ 63) (b : Builtin)
    (param : List Char) :
    ((b ∈ ordering → ¬ IsMinusZeros param) → (b ∈ comparisons → ¬ IsBeyondSigned param) →
      b.holds (.int (.ofNat n)) param = b.holds (.uint (.ofNat n)) param) ∧
    (Value.uint (.ofNat n)).view = .uint (.ofNat n) ∧
    (Value.uint (.ofNat n)).snapshot.view = .int (.ofNat n) := by
  refine ⟨fun hzero hbeyond => ?_, rfl, Value.view_snapshot_uint hn⟩
  have hless : [Builtin.ne, .lt, .lte] ⊆ comparisons := by decide
  rw [holds_signed_iff hn]
  intro htells
  have hordering := htells.mem_ordering
  obtain ⟨-, h, -⟩ | ⟨h, hb⟩ := htells
  · exact hzero hordering h
  · exact hbeyond (hless hb) h

/-- The largest signed integer, in a range up to itself and not less than `2 ^ 64`. -/
theorem Builtin.holds_signed_eq_unsigned_largest :
    Builtin.range.holds (.int 9223372036854775807) "0-9223372036854775807".toList =
      Builtin.range.holds (.uint 9223372036854775807) "0-9223372036854775807".toList ∧
    Builtin.lt.holds (.int 9223372036854775807) "18446744073709551616".toList =
      Builtin.lt.holds (.uint 9223372036854775807) "18446744073709551616".toList ∧
    (Value.uint 9223372036854775807).snapshot.view = .int 9223372036854775807 := by
  have h := holds_signed_eq_unsigned (n := 9223372036854775807) (by norm_num)
  refine ⟨(h .range _).1 ?_ ?_, (h .lt _).1 ?_ ?_, (h .range []).2.2⟩
  · exact fun hb => absurd hb (by decide)
  · exact fun hb => absurd hb (by decide)
  · exact fun _ hzeros => absurd (Numeral.isMinusZeros_iff.1 hzeros).1 (by decide)
  · rintro - ⟨p, hp, -, hupper⟩
    have hwrites : Numeral.Writes "18446744073709551616".toList 18446744073709551616 :=
      Numeral.literal?_eq_some_iff.1 rfl
    rw [hp.unique hwrites] at hupper
    norm_num at hupper

end RecordCheck
