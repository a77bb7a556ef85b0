import Mathlib.Logic.Function.Iterate
import RecordCheck.Run
import RecordCheck.Value

/-!
# Rules on optional values

An optional value is missing or holds a value, which may be optional again; `View.present^[k] w` is
the view `w` at depth `k`, inside `k` optional values that are there.  A built-in rule looks through
all of them: it says of an optional value what it says of the value inside, and is content with a
missing one.  Only `required` stops at the outermost optional value and asks whether it is there.
Custom rules get the view as it is.

* `Value.view_iterate_present` — the view of an optional value of any depth.
* `View.exists_iterate_present` — every view is a missing value or one that is not optional, at some
  depth.
* `Builtin.holds_iterate_present`, `Builtin.holds_iterate_absent` — what rules other than `required`
  say at any depth.
* `RuleTable.evaluate_optional` — the verdicts of a rule table on optional values.
-/

namespace RecordCheck

/-! ## Views of optional values -/

/-- The view of an optional value of any depth is that of the value inside, at this depth. -/
theorem Value.view_iterate_present (k : ℕ) (v : Value) :
    (Value.present^[k] v).view = View.present^[k] v.view := by
  induction k with
  | zero => rfl
  | succ k ih => rw [Function.iterate_succ_apply', Function.iterate_succ_apply', view, ih]

namespace View

/-- Is this the view of an optional value? -/
def isOptional : View → Bool
  | .absent | .present _ => true
  | _ => false

/-- Under some number of optional values there is a missing value, or one that is not optional. -/
theorem exists_iterate_present (w : View) :
    ∃ k v, w = View.present^[k] v ∧ (v = .absent ∨ v.isOptional = false) := by
  induction w with
  | absent => exact ⟨0, .absent, rfl, .inl rfl⟩
  | present inner ih =>
    obtain ⟨k, v, rfl, hv⟩ := ih
    exact ⟨k + 1, v, (Function.iterate_succ_apply' present k v).symm, hv⟩
  | _ => exact ⟨0, _, rfl, .inr rfl⟩

end View

/-! ## Built-in rules -/

namespace Builtin

variable {b : Builtin}

/-- A rule is asked about a view that is not optional as it stands. -/
theorem holds_of_not_optional {v : View} (hv : v.isOptional = false) (param : List Char) :
    b.holds v param = b.check v param := by
  cases v with
  | absent => cases hv
  | present => cases hv
  | _ => rfl

theorem holds_absent (b : Builtin) (param : List Char) : b.holds .absent param = (b != .required) :=
  rfl

theorem required_holds_present (v : View) (param : List Char) :
    Builtin.required.holds (.present v) param = true := by
  rw [holds, if_pos rfl]

variable (hb : b ≠ .required)

include hb

theorem holds_present (v : View) (param : List Char) :
    b.holds (.present v) param = b.holds v param := by
  rw [holds, if_neg hb]

/-- Every rule but `required` looks through optional values of any depth. -/
theorem holds_iterate_present (k : ℕ) (v : View) (param : List Char) :
    b.holds (View.present^[k] v) param = b.holds v param := by
  induction k with
  | zero => rfl
  | succ k ih => rw [Function.iterate_succ_apply', holds_present hb, ih]

/-- Every rule but `required` is content with a missing value at any depth. -/
theorem holds_iterate_absent (k : ℕ) (param : List Char) :
    b.holds (View.present^[k] .absent) param = true := by
  rw [holds_iterate_present hb, holds_absent, bne_iff_ne]
  exact hb

end Builtin

/-! ## Rule tables -/

/-- **Built-in rules see through optional values, custom rules do not.**  An optional value of any
depth shows the view of the value inside at this depth.  A built-in rule other than `required`
whose name no custom rule has gives the same verdict on a view that is not optional and on this view
at any depth, and a missing value satisfies it at any depth.  If no custom rule has the name
`required`, a value that is there satisfies it, whatever is inside, and a missing one does not.  A
custom rule of any name runs its script on the view as it is, at any depth, and this is the view
that the trace tells. -/
theorem RuleTable.evaluate_optional (t : RuleTable) (ask : View → String → String → Run Bool)
    (param : String) :
    (∀ (k : ℕ) (v : Value), (Value.present^[k] v).view = View.present^[k] v.view) ∧
    (∀ b : Builtin, b ≠ .required → t.custom.get? b.name = none → ∀ k : ℕ,
      (∀ v : View, v.isOptional = false →
        t.evaluate ask v b.name param = Run.pure (b.check v param.toList) ∧
        t.evaluate ask (View.present^[k] v) b.name param = t.evaluate ask v b.name param) ∧
      t.evaluate ask (View.present^[k] .absent) b.name param = Run.pure true) ∧
    (t.custom.get? "required" = none →
      (∀ inner : View, t.evaluate ask (.present inner) "required" param = Run.pure true) ∧
      t.evaluate ask .absent "required" param = Run.pure false) ∧
    (∀ (rule : String) (custom : CustomRule), t.custom.get? rule = some custom →
      ∀ (k : ℕ) (v : View) (w : Validator) (e : Ending Bool),
        t.evaluate ask (View.present^[k] v) rule param w = some e ↔
          ∃ d, (custom.body (View.present^[k] v) param).run ask w = some d ∧
            e = ⟨d.answer, d.validator, d.trace ++
              [.called ⟨rule, custom.origin, View.present^[k] v, param, d.answer⟩]⟩) := by
  refine ⟨Value.view_iterate_present, ?_, ?_, ?_⟩
  · intro b hb hname k
    have hverdict (v : View) :
        t.evaluate ask v b.name param = Run.pure (b.holds v param.toList) :=
      evaluate_of_builtin ask hname (Builtin.ofName?_name b) v param
    refine ⟨fun v hv => ⟨?_, ?_⟩, ?_⟩
    · rw [hverdict, Builtin.holds_of_not_optional hv]
    · rw [hverdict, hverdict, Builtin.holds_iterate_present hb]
    · rw [hverdict, Builtin.holds_iterate_absent hb]
  · intro hname
    refine ⟨fun inner => ?_, evaluate_of_builtin ask hname rfl .absent param⟩
    rw [evaluate_of_builtin ask hname rfl, Builtin.required_holds_present]
  · intro rule custom hname k v w e
    rw [evaluate_of_custom ask hname, CustomRule.call_eq_some_iff]

/-- A table whose rule `required` wants a missing value inside two values that are there. -/
def RuleTable.wantsNested : RuleTable :=
  RuleTable.empty.install "required" (.ofTest fun value _ => value == .present (.present .absent))

/-- A short text and a missing value at depth two, a blank text that is there, and a custom rule
that tells depths apart. -/
theorem RuleTable.evaluate_optional_nested :
    RuleTable.empty.evaluate (Run.evaluate 1) (.present (.present (.text "ab"))) "min" "3" =
      Run.pure false ∧
    RuleTable.empty.evaluate (Run.evaluate 1) (.present (.present .absent)) "min" "3" =
      Run.pure true ∧
    RuleTable.empty.evaluate (Run.evaluate 1) (.present (.text " ")) "required" "3" =
      Run.pure true ∧
    RuleTable.wantsNested.evaluate (Run.evaluate 1) (.present (.present .absent)) "required" "3"
        ⟨.wantsNested, .english⟩ =
      some ⟨true, ⟨.wantsNested, .english⟩,
        [.called ⟨"required", .program, .present (.present .absent), "3", true⟩]⟩ := by
  have h := evaluate_optional .empty (Run.evaluate 1) "3"
  have hmin := h.2.1 .min (by decide) rfl 2
  have hshort := hmin.1 (.text "ab") rfl
  have hcustom := (evaluate_optional .wantsNested (Run.evaluate 1) "3").2.2.2 "required" _ rfl 2
    .absent ⟨.wantsNested, .english⟩
  refine ⟨hshort.2.trans (hshort.1.trans ?_), hmin.2, (h.2.2.1 rfl).1 (.text " "), ?_⟩
  · rfl
  · exact (hcustom _).2 ⟨_, rfl, rfl⟩

end RecordCheck
