import RecordCheck.Proofs.Ordering

/-!
# A choice of equalities

The rule `oneof` looks for a value among the words of its parameter, as text: an integer is written out
for this.  The rule `eq` reads its parameter as a number when the value is one.  Even so, `oneof` is a
choice between equalities with the words.  For integers this asks that the words be written as integers
are written: the word `+5` equals the number 5 but is not its text.

* `Builtin.eq_holds_iff_of_isCanonical` — which canonical word equals an integer, whatever its size.
* `Builtin.oneof_holds_iff_eq` — the rule `oneof` through the rule `eq`, and the values that no
  parameter makes it accept.
-/

namespace RecordCheck

open Numeral (IsCanonical ofInt)

namespace Number

variable {n : Number} {v : ℤ} (hv : n.integer? = some v)

include hv

/-- The decimal text of an integer is its shortest literal. -/
theorem decimal?_of_integer : n.decimal? = some (ofInt v) := by
  cases n with
  | int => cases hv; rfl
  | uint => cases hv; rfl
  | float => cases hv

/-- A number reaches itself. -/
theorem reaches_integer : n.Reaches v := by
  cases n with
  | int n => cases hv; exact ⟨n.le_toInt, n.toInt_lt⟩
  | uint n =>
    cases hv
    have hupper := n.toNat_lt
    exact ⟨by omega, by omega⟩
  | float => cases hv

omit hv in
/-- The shortest literal of zero has no minus sign. -/
theorem not_meetsMinusZero_ofInt (p : ℤ) : ¬ n.MeetsMinusZero (ofInt p) := by
  rintro ⟨-, hminus, hzero⟩
  obtain rfl : p = 0 := (Numeral.writes_ofInt p).unique hzero
  exact absurd hminus (by decide)

end Number

namespace Builtin

/-! ## Words -/

theorem isWordOf_iff {param s : List Char} :
    isWordOf param s = true ↔ s ∈ param.splitOn ' ' := by
  rw [isWordOf, List.any_eq_true]
  simp

theorem oneof_holds_text {s : String} {param : List Char} :
    Builtin.oneof.holds (.text s) param = true ↔ s = "" ∨ s.toList ∈ param.splitOn ' ' := by
  rw [← isWordOf_iff, ← String.isEmpty_iff, ← Bool.or_eq_true]
  rfl

theorem eq_holds_text {s : String} {param : List Char} :
    Builtin.eq.holds (.text s) param = true ↔ s.toList = param :=
  beq_iff_eq

/-! ## Integers -/

section Integers

variable {w : View} {n : Number} {v : ℤ} (hw : Number.ofView? w = some n) (hv : n.integer? = some v)

include hw hv

theorem oneof_holds_integer {param : List Char} :
    Builtin.oneof.holds w param = true ↔ ofInt v ∈ param.splitOn ' ' := by
  have hcheck : isOneOf w param = ((Number.ofView? w).bind Number.decimal?).any (isWordOf param) := by
    cases w with
    | text => cases hw
    | _ => rfl
  rw [holds_of_number hw, ← isWordOf_iff]
  have hrule : Builtin.oneof.check w param = isOneOf w param := rfl
  rw [hrule, hcheck, hw, Option.bind_some, Number.decimal?_of_integer hv, Option.any_some]

/-- An integer equals the shortest literal of itself and of no other integer, be it within reach or
not. -/
theorem eq_holds_ofInt (p : ℤ) : Builtin.eq.holds w (ofInt p) = decide (v = p) := by
  have hwrites := Numeral.writes_ofInt p
  by_cases hp : n.Reaches p
  · have hcompare := Number.compareParam?_of_writes hv hwrites hp (Number.not_meetsMinusZero_ofInt p)
    exact (comparesAs_of_compareParam? hw hcompare).eq
  · have hne : v ≠ p := by
      rintro rfl
      exact hp (Number.reaches_integer hv)
    have hcompare : n.compareParam? (ofInt p) = none :=
      Number.compareParam?_of_not_writes hv fun q hq hreach => hp (hwrites.unique hq ▸ hreach)
    rw [holds_of_compareParam?_none hw rfl hcompare, decide_eq_false hne]

/-- Of the canonical words an integer equals just its own text. -/
theorem eq_holds_iff_of_isCanonical {word : List Char} (hword : IsCanonical word) :
    Builtin.eq.holds w word = true ↔ word = ofInt v := by
  obtain ⟨p, rfl⟩ := hword.exists_ofInt
  rw [eq_holds_ofInt hw hv, decide_eq_true_iff]
  exact ⟨fun h => congrArg ofInt h.symm, fun h => (Numeral.ofInt_injective h).symm⟩

end Integers

/-- **The rule `oneof` is a choice of equalities.**  A text that is not empty is accepted exactly if
it equals one of the words between the single spaces of the parameter.  So is an integer, signed or
unsigned, if all the words are canonical literals of integers of any size.  The empty text is always
accepted; a text with a space, a floating-point number, a truth value, a collection and a sealed value
never are. -/
theorem oneof_holds_iff_eq (param : List Char) :
    (∀ s : String, s ≠ "" →
      (Builtin.oneof.holds (.text s) param = true ↔
        ∃ word ∈ param.splitOn ' ', Builtin.eq.holds (.text s) word = true)) ∧
    (∀ w n v, Number.ofView? w = some n → n.integer? = some v →
      (∀ word ∈ param.splitOn ' ', IsCanonical word) →
      (Builtin.oneof.holds w param = true ↔
        ∃ word ∈ param.splitOn ' ', Builtin.eq.holds w word = true)) ∧
    Builtin.oneof.holds (.text "") param = true ∧
    (∀ s : String, ' ' ∈ s.toList → Builtin.oneof.holds (.text s) param = false) ∧
    (∀ x, Builtin.oneof.holds (.float x) param = false) ∧
    (∀ w : View, w.isUnordered = true → Builtin.oneof.holds w param = false) := by
  refine ⟨?_, ?_, oneof_holds_text.2 (.inl rfl), ?_, fun _ => rfl, ?_⟩
  · intro s hne
    rw [oneof_holds_text, or_iff_right hne]
    simp only [eq_holds_text, exists_eq_right']
  · intro w n v hw hv hcanonical
    rw [oneof_holds_integer hw hv]
    constructor
    · intro hmem
      exact ⟨_, hmem, (eq_holds_iff_of_isCanonical hw hv (hcanonical _ hmem)).2 rfl⟩
    · rintro ⟨word, hmem, hequal⟩
      rwa [← (eq_holds_iff_of_isCanonical hw hv (hcanonical word hmem)).1 hequal]
  · intro s hspace
    have hne : s ≠ "" := by
      rintro rfl
      simp at hspace
    rw [← Bool.not_eq_true, oneof_holds_text, or_iff_right hne]
    exact fun hmem => Text.sep_not_mem_of_mem_splitOn hmem hspace
  · intro w hw
    cases w with
    | bool | sequence | map | sealed => rfl
    | _ => cases hw

/-- A word, the largest unsigned integer among words that no signed integer reaches, a text of two
words, and a truth value. -/
theorem oneof_holds_iff_eq_largest :
    Builtin.oneof.holds (.text "female") "male female".toList = true ∧
    Builtin.oneof.holds (.uint 18446744073709551615)
      "-1 18446744073709551615 99999999999999999999".toList = true ∧
    Builtin.oneof.holds (.text "a b") "a b".toList = false ∧
    Builtin.oneof.holds (.bool true) "true".toList = false := by
  have hwords : "-1 18446744073709551615 99999999999999999999".toList.splitOn ' ' =
      ["-1".toList, "18446744073709551615".toList, "99999999999999999999".toList] := by decide
  have hcanonical : ∀ word ∈ "-1 18446744073709551615 99999999999999999999".toList.splitOn ' ',
      IsCanonical word := by
    rw [hwords]
    simp only [List.forall_mem_cons]
    exact ⟨@IsCanonical.negative ['1'] ⟨by decide, List.all_eq_true.1 (by decide)⟩ (by decide),
      .positive ⟨by decide, List.all_eq_true.1 (by decide)⟩ (by decide),
      .positive ⟨by decide, List.all_eq_true.1 (by decide)⟩ (by decide), List.forall_mem_nil _⟩
  refine ⟨?_, ?_, ?_, ?_⟩
  · rw [(oneof_holds_iff_eq "male female".toList).1 "female" (by decide)]
    exact ⟨"female".toList, by decide, by decide⟩
  · rw [(oneof_holds_iff_eq _).2.1 (.uint 18446744073709551615) _ 18446744073709551615 rfl
      (by decide) hcanonical]
    exact ⟨"18446744073709551615".toList, by decide, by decide⟩
  · exact (oneof_holds_iff_eq "a b".toList).2.2.2.1 "a b" (by decide)
  · exact (oneof_holds_iff_eq "true".toList).2.2.2.2.2 _ rfl

end Builtin

end RecordCheck
