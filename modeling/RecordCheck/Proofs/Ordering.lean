import RecordCheck.Proofs.Comparison
import RecordCheck.Proofs.Optional

/-!
# The comparison rules as one order

Six rules compare a value with a parameter.  Each has a test of its own for the outcome of the
comparison, and two of them look at texts too.  For a number they come from one order: if there is a
comparison at all, exactly one of `lt`, `eq` and `gt` holds and the other three follow from these; if
there is none, all six fail, `ne` included.  There is none for a parameter that writes no number of the
kind, and where one of the two sides is not a number.

* `Number.IsComparable` — the parameters with which a number is compared, and
  `Number.isSome_compareParam?_iff` — with these it is.
* `Builtin.OneOrder`, `Builtin.NoOrder` — the six rules come from one order; all of them fail.
* `Builtin.comparisons_consistent` — what the six rules say of values of every kind, at any depth of
  optional values.
-/

namespace RecordCheck

/-! ## When there is a comparison -/

theorem Double.isSome_compare?_iff {x y : Double} :
    (x.compare? y).isSome ↔ x.isNaN = false ∧ y.isNaN = false := by
  rw [compare?]
  cases x.isNaN <;> cases y.isNaN <;> simp

namespace Number

/-- The parameter writes a number of the kind, and neither the number nor what the parameter writes is
a floating-point value that is not a number. -/
def IsComparable (n : Number) (param : List Char) : Prop :=
  match n with
  | .float x => x.isNaN = false ∧ ∃ y, Double.read? param = some y ∧ y.isNaN = false
  | n => ∃ p, Numeral.Writes param p ∧ n.Reaches p

theorem isSome_compareParam?_of_integer {n : Number} {v : ℤ} (hv : n.integer? = some v)
    (param : List Char) :
    (n.compareParam? param).isSome ↔ ∃ p, Numeral.Writes param p ∧ n.Reaches p := by
  constructor
  · intro h
    by_contra hnot
    rw [compareParam?_of_not_writes hv fun p hp hreach => hnot ⟨p, hp, hreach⟩] at h
    cases h
  · rintro ⟨p, hp, hreach⟩
    by_cases hzero : n.MeetsMinusZero param
    · rw [compareParam?_of_meetsMinusZero hzero, Option.isSome_some]
    · rw [compareParam?_of_writes hv hp hreach hzero, Option.isSome_some]

/-- A number is compared with the parameters with which it can be. -/
theorem isSome_compareParam?_iff {n : Number} {param : List Char} :
    (n.compareParam? param).isSome ↔ n.IsComparable param := by
  cases n with
  | int n => exact isSome_compareParam?_of_integer rfl param
  | uint n => exact isSome_compareParam?_of_integer rfl param
  | float x =>
    rw [compareParam?, IsComparable]
    cases hread : Double.read? param with
    | none => simp
    | some y => simp [Double.isSome_compare?_iff]

end Number

/-! ## The six rules -/

/-- A truth value, a collection or a sealed value. -/
def View.isUnordered : View → Bool
  | .bool _ | .sequence _ | .map _ | .sealed _ => true
  | _ => false

namespace Builtin

/-- The comparison rules. -/
def comparisons : List Builtin := [.eq, .ne, .gt, .gte, .lt, .lte]

/-- Exactly one of `lt`, `eq` and `gt` holds of the view and the parameter, and the other comparison
rules say what follows from this. -/
structure OneOrder (w : View) (param : List Char) : Prop where
  one : ∃! b, b ∈ [Builtin.lt, .eq, .gt] ∧ b.holds w param = true
  gte : Builtin.gte.holds w param = (Builtin.gt.holds w param || Builtin.eq.holds w param)
  lte : Builtin.lte.holds w param = (Builtin.lt.holds w param || Builtin.eq.holds w param)
  ne : Builtin.ne.holds w param = !Builtin.eq.holds w param

/-- All comparison rules fail. -/
def NoOrder (w : View) (param : List Char) : Prop :=
  ∀ b ∈ comparisons, b.holds w param = false

theorem ne_required_of_mem_comparisons {b : Builtin} (hb : b ∈ comparisons) : b ≠ .required := by
  rintro rfl
  exact absurd hb (by decide)

theorem isSome_accepts?_of_mem_comparisons {b : Builtin} (hb : b ∈ comparisons) :
    b.accepts?.isSome := by
  simp only [comparisons, List.mem_cons, List.not_mem_nil, or_false] at hb
  rcases hb with rfl | rfl | rfl | rfl | rfl | rfl <;> rfl

/-- The strict rule for an outcome of a comparison. -/
def ofOrdering : Ordering → Builtin
  | .lt => .lt
  | .eq => .eq
  | .gt => .gt

theorem accepts?_ofOrdering (o : Ordering) : (ofOrdering o).accepts? = some (· == o) := by
  cases o <;> rfl

theorem mem_strict_iff {b : Builtin} :
    b ∈ [Builtin.lt, .eq, .gt] ↔ ∃ o, ofOrdering o = b := by
  constructor
  · intro hb
    simp only [List.mem_cons, List.not_mem_nil, or_false] at hb
    rcases hb with rfl | rfl | rfl
    · exact ⟨.lt, rfl⟩
    · exact ⟨.eq, rfl⟩
    · exact ⟨.gt, rfl⟩
  · rintro ⟨o, rfl⟩
    cases o <;> decide

variable {w : View} {param : List Char} (k : ℕ)

/-- Comparison rules look through optional values. -/
theorem NoOrder.iterate_present (h : NoOrder w param) : NoOrder (View.present^[k] w) param := by
  intro b hb
  rw [holds_iterate_present (ne_required_of_mem_comparisons hb)]
  exact h b hb

section Numbers

variable {n : Number} (hw : Number.ofView? w = some n)

include hw

theorem noOrder_of_compareParam?_none (h : n.compareParam? param = none) : NoOrder w param :=
  fun _ hb => holds_of_compareParam?_none hw (isSome_accepts?_of_mem_comparisons hb) h

/-- Whatever the outcome of the comparison is, at any depth. -/
theorem oneOrder_of_compareParam?_some {o : Ordering} (h : n.compareParam? param = some o) :
    OneOrder (View.present^[k] w) param := by
  have hrule {b : Builtin} {accept : Ordering → Bool} (hb : b.accepts? = some accept) :
      b.holds (View.present^[k] w) param = accept o := by
    have hne : b ≠ .required := by
      rintro rfl
      cases hb
    rw [holds_iterate_present hne, holds_of_accepts? hw hb, h, Option.any_some]
  have heq := hrule (b := .eq) rfl
  have hgt := hrule (b := .gt) rfl
  have hlt := hrule (b := .lt) rfl
  constructor
  case one =>
    refine ⟨ofOrdering o, ⟨mem_strict_iff.2 ⟨o, rfl⟩, ?_⟩, ?_⟩
    · rw [hrule (accepts?_ofOrdering o), beq_self_eq_true]
    · rintro b ⟨hb, hholds⟩
      obtain ⟨outcome, rfl⟩ := mem_strict_iff.1 hb
      rw [hrule (accepts?_ofOrdering outcome), beq_iff_eq] at hholds
      rw [hholds]
  case gte =>
    rw [hrule (b := .gte) rfl, hgt, heq]
    cases o <;> rfl
  case lte =>
    rw [hrule (b := .lte) rfl, hlt, heq]
    cases o <;> rfl
  case ne =>
    rw [hrule (b := .ne) rfl, heq]
    rfl

end Numbers

/-- Nothing but texts and numbers satisfies a comparison rule. -/
theorem noOrder_of_isUnordered (hw : w.isUnordered = true) : NoOrder w param := by
  intro b hb
  simp only [comparisons, List.mem_cons, List.not_mem_nil, or_false] at hb
  cases w with
  | bool | sequence | map | sealed => rcases hb with rfl | rfl | rfl | rfl | rfl | rfl <;> rfl
  | _ => cases hw

/-- **The comparison rules are one consistent order.**  They look through optional values of any
depth.  For a number they come from one order if it can be compared with the parameter, and otherwise
all of them fail, `ne` included.  A text is equal to the parameter or unequal to it, and the rules for
sizes fail.  Truth values, collections and sealed values fail all six. -/
theorem comparisons_consistent (w : View) (param : List Char) (k : ℕ) :
    (∀ n, Number.ofView? w = some n →
      (n.IsComparable param → OneOrder (View.present^[k] w) param) ∧
      (¬ n.IsComparable param → NoOrder (View.present^[k] w) param)) ∧
    (∀ s, w = .text s →
      Builtin.eq.holds (View.present^[k] w) param = decide (s.toList = param) ∧
      Builtin.ne.holds (View.present^[k] w) param = decide (s.toList ≠ param) ∧
      ∀ b ∈ [Builtin.gt, .gte, .lt, .lte], b.holds (View.present^[k] w) param = false) ∧
    (w.isUnordered = true → NoOrder (View.present^[k] w) param) := by
  refine ⟨fun n hw => ⟨?_, ?_⟩, ?_, ?_⟩
  · intro hcomparable
    obtain ⟨o, ho⟩ := Option.isSome_iff_exists.1 (Number.isSome_compareParam?_iff.2 hcomparable)
    exact oneOrder_of_compareParam?_some k hw ho
  · intro hnot
    rw [← Number.isSome_compareParam?_iff, Option.not_isSome_iff_eq_none] at hnot
    exact (noOrder_of_compareParam?_none hw hnot).iterate_present k
  · rintro s rfl
    refine ⟨?_, ?_, ?_⟩
    · rw [holds_iterate_present (by decide), Bool.eq_iff_iff, decide_eq_true_iff]
      exact beq_iff_eq
    · rw [holds_iterate_present (by decide), Bool.eq_iff_iff, decide_eq_true_iff]
      exact bne_iff_ne
    · intro b hb
      simp only [List.mem_cons, List.not_mem_nil, or_false] at hb
      rcases hb with rfl | rfl | rfl | rfl <;> rw [holds_iterate_present (by decide)] <;> rfl
  · intro hw
    exact (noOrder_of_isUnordered hw).iterate_present k

/-- Half of one against a literal with an exponent, a NaN, a parameter that is no number of the kind,
a zero with a minus sign, a text, and a truth value, inside two optional values each. -/
theorem comparisons_consistent_nested :
    OneOrder (.present (.present (.float ⟨0x3fe0000000000000⟩))) "50e-2".toList ∧
    NoOrder (.present (.present (.float .nan))) "1".toList ∧
    NoOrder (.present (.present (.int 2))) "1.5".toList ∧
    OneOrder (.present (.present (.uint 0))) "-0".toList ∧
    Builtin.ne.holds (.present (.present (.text "5"))) "+5".toList = true ∧
    NoOrder (.present (.present (.bool true))) "true".toList := by
  have hhalf : Number.IsComparable (.float ⟨0x3fe0000000000000⟩) "50e-2".toList :=
    ⟨by decide, ⟨0x3fe0000000000000⟩, by decide, by decide⟩
  have hnan : ¬ Number.IsComparable (.float .nan) "1".toList := by
    rintro ⟨h, -⟩
    exact absurd h (by decide)
  have hfraction : ¬ Number.IsComparable (.int 2) "1.5".toList := by
    rintro ⟨p, hp, -⟩
    have hnone : Numeral.literal? "1.5".toList = none := rfl
    rw [← Numeral.literal?_eq_some_iff, hnone] at hp
    cases hp
  have hzero : Number.IsComparable (.uint 0) "-0".toList :=
    ⟨0, Numeral.literal?_eq_some_iff.1 rfl, by norm_num, by norm_num⟩
  exact ⟨((comparisons_consistent _ _ 2).1 _ rfl).1 hhalf,
    ((comparisons_consistent _ _ 2).1 _ rfl).2 hnan,
    ((comparisons_consistent _ _ 2).1 _ rfl).2 hfraction,
    ((comparisons_consistent _ _ 2).1 _ rfl).1 hzero,
    ((comparisons_consistent _ _ 2).2.1 "5" rfl).2.1.trans (by decide),
    (comparisons_consistent _ _ 2).2.2 rfl⟩

end Builtin

end RecordCheck
