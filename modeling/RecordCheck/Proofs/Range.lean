import RecordCheck.Proofs.Optional

/-!
# Ranges

The parameter of the rule `range` is two bounds with a hyphen between them.  The rule says what
`min` and `max` say with these bounds, of every view; in particular neither bound can be negative.
With any other parameter there is nothing to compare with, and only a missing value satisfies the
rule.

* `Builtin.isBetween_append`, `Builtin.isBetween_of_count` — the two cases for a view that is not
  optional.
* `Builtin.range_holds_append`, `Builtin.range_holds_iff_of_count` — the same for all views.
* `RuleTable.evaluate_range` — the verdicts of a rule table.
-/

namespace RecordCheck

namespace Builtin

/-! ## Views that are not optional -/

theorem isBetween_append {lo hi : List Char} (hlo : '-' ∉ lo) (hhi : '-' ∉ hi) (v : View) :
    isBetween v (lo ++ '-' :: hi) = (atLeast v lo && atMost v hi) := by
  have hhalves : Text.halves '-' (lo ++ '-' :: hi) = some (lo, hi) :=
    Text.halves_eq_some_iff.2 ⟨rfl, hlo, hhi⟩
  rw [isBetween, hhalves]

theorem isBetween_of_count {param : List Char} (h : param.count '-' ≠ 1) (v : View) :
    isBetween v param = false := by
  rw [isBetween, Text.halves_eq_none h]

/-! ## All views -/

/-- A view is in a range when it satisfies both bounds. -/
theorem range_holds_append {lo hi : List Char} (hlo : '-' ∉ lo) (hhi : '-' ∉ hi) (w : View) :
    Builtin.range.holds w (lo ++ '-' :: hi) =
      (Builtin.min.holds w lo && Builtin.max.holds w hi) := by
  obtain ⟨k, v, rfl, rfl | hv⟩ := w.exists_iterate_present
  · rw [holds_iterate_absent (by decide), holds_iterate_absent (by decide),
      holds_iterate_absent (by decide), Bool.and_self]
  · rw [holds_iterate_present (by decide), holds_iterate_present (by decide),
      holds_iterate_present (by decide), holds_of_not_optional hv, holds_of_not_optional hv,
      holds_of_not_optional hv]
    exact isBetween_append hlo hhi v

/-- When the parameter does not have one hyphen, only a missing value is in the range. -/
theorem range_holds_iff_of_count {param : List Char} (h : param.count '-' ≠ 1) (w : View) :
    Builtin.range.holds w param = true ↔ ∃ k, w = View.present^[k] .absent := by
  constructor
  · intro hw
    obtain ⟨k, v, rfl, rfl | hv⟩ := w.exists_iterate_present
    · exact ⟨k, rfl⟩
    · have hfails : Builtin.range.check v param = false := isBetween_of_count h v
      rw [holds_iterate_present (by decide), holds_of_not_optional hv, hfails] at hw
      cases hw
  · rintro ⟨k, rfl⟩
    exact holds_iterate_absent (by decide) k param

end Builtin

/-! ## Rule tables -/

namespace RuleTable

/-- **A range is its two bounds.**  Let no custom rule have the name `range`, `min` or `max`.  The
verdict of `range` on a view and two texts without a hyphen, joined by one, is that `min` with the
first text and `max` with the second both hold, however these texts read.  With a parameter that
has no hyphen or more than one, `range` holds of a missing value, at any depth of optional values,
and of nothing else. -/
theorem evaluate_range (t : RuleTable) (ask : View → String → String → Run Bool) (value : View)
    (hrange : t.custom.get? "range" = none) (hmin : t.custom.get? "min" = none)
    (hmax : t.custom.get? "max" = none) :
    (∀ lo hi : String, '-' ∉ lo.toList → '-' ∉ hi.toList →
      ∃ least most, t.evaluate ask value "min" lo = Run.pure least ∧
        t.evaluate ask value "max" hi = Run.pure most ∧
        t.evaluate ask value "range" (lo ++ "-" ++ hi) = Run.pure (least && most)) ∧
    (∀ param : String, param.toList.count '-' ≠ 1 →
      ∃ passes, t.evaluate ask value "range" param = Run.pure passes ∧
        (passes = true ↔ ∃ k, value = View.present^[k] .absent)) := by
  refine ⟨?_, ?_⟩
  · intro lo hi hlo hhi
    have hparam : (lo ++ "-" ++ hi).toList = lo.toList ++ '-' :: hi.toList := by simp
    refine ⟨_, _, evaluate_of_builtin ask hmin rfl value lo,
      evaluate_of_builtin ask hmax rfl value hi, ?_⟩
    rw [evaluate_of_builtin ask hrange rfl, hparam, Builtin.range_holds_append hlo hhi]
  · intro param hparam
    exact ⟨_, evaluate_of_builtin ask hrange rfl value param,
      Builtin.range_holds_iff_of_count hparam value⟩

/-- The number 7 is not in a range whose upper bound is empty, and not in one whose parameter has
two hyphens; a missing value is. -/
theorem evaluate_range_seven :
    empty.evaluate (Run.evaluate 1) (.present (.int 7)) "min" "+3" = Run.pure true ∧
    empty.evaluate (Run.evaluate 1) (.present (.int 7)) "max" "" = Run.pure false ∧
    empty.evaluate (Run.evaluate 1) (.present (.int 7)) "range" "+3-" = Run.pure false ∧
    empty.evaluate (Run.evaluate 1) (.present (.int 7)) "range" "3--9" = Run.pure false ∧
    empty.evaluate (Run.evaluate 1) (.present .absent) "range" "3--9" = Run.pure true := by
  have hseven := evaluate_range .empty (Run.evaluate 1) (.present (.int 7)) rfl rfl rfl
  have hmissing := evaluate_range .empty (Run.evaluate 1) (.present .absent) rfl rfl rfl
  obtain ⟨least, most, hleast, hmost, hrange⟩ := hseven.1 "+3" "" (by decide) (by decide)
  obtain ⟨fails, hfails, -⟩ := hseven.2 "3--9" (by decide)
  obtain ⟨passes, hpasses, hpresent⟩ := hmissing.2 "3--9" (by decide)
  obtain rfl : least = true := Run.pure_inj.1 hleast.symm
  obtain rfl : most = false := Run.pure_inj.1 hmost.symm
  obtain rfl : fails = false := Run.pure_inj.1 hfails.symm
  obtain rfl : passes = true := hpresent.2 ⟨1, rfl⟩
  exact ⟨hleast, hmost, hrange, hfails, hpasses⟩

end RuleTable

end RecordCheck
