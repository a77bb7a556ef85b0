import RecordCheck.Proofs.Walk

/-!
# What a check comes to

As long as custom rules only test, a check always ends, leaves the validator as it was, and comes
to what can be read off the flattened record: for each field that has a failing rule, in order,
the failure at the first of them.

* `RuleTable.OnlyTests` — no custom rule talks to the validator.
* `RuleTable.passes`, `RuleTable.notes` — the verdict of such a table and what it leaves in the
  trace (`RuleTable.evaluate_of_onlyTests`).
* `Validator.failure?`, `Validator.fieldNotes` — the same for a field
  (`Validator.checkField_of_onlyTests`).
* `Run.validate_of_onlyTests` — the ending of a whole check.
* `Run.validate_eq_failures` — a check reports exactly the failures of the flattened record.
-/

namespace RecordCheck

/-! ## Rules that only test -/

/-- Does a script answer at once that the field passes? -/
def Script.passes : Script → Bool
  | .answer passes => passes
  | _ => false

/-- A custom rule that does nothing but answer. -/
def CustomRule.IsTest (rule : CustomRule) : Prop :=
  ∀ value param, ∃ passes, rule.body value param = .answer passes

theorem CustomRule.isTest_ofTest (test : View → String → Bool) : (ofTest test).IsTest :=
  fun value param => ⟨test value param, rfl⟩

namespace RuleTable

/-- No custom rule talks to the validator that runs it. -/
def OnlyTests (t : RuleTable) : Prop :=
  ∀ name rule, t.custom.get? name = some rule → rule.IsTest

theorem onlyTests_empty : empty.OnlyTests := by
  intro name rule h
  simp [empty] at h

theorem OnlyTests.install {t : RuleTable} (h : t.OnlyTests) {rule : CustomRule}
    (hr : rule.IsTest) (name : String) : (t.install name rule).OnlyTests := by
  intro other found hf
  rw [RuleTable.install, Dict.get?_insert] at hf
  split at hf
  · exact Option.some.inj hf ▸ hr
  · exact h other found hf

/-! ## Verdicts -/

/-- The verdict of a table whose custom rules only test. -/
def passes (t : RuleTable) (value : View) (rule param : String) : Bool :=
  match t.custom.get? rule with
  | some custom => (custom.body value param).passes
  | none =>
    match Builtin.ofName? rule with
    | some b => b.holds value param.toList
    | none => true

theorem passes_of_builtin {t : RuleTable} {rule : String} {b : Builtin}
    (h : t.custom.get? rule = none) (hb : Builtin.ofName? rule = some b) (value : View)
    (param : String) : t.passes value rule param = b.holds value param.toList := by
  simp only [passes, h, hb]

theorem passes_of_unknown {t : RuleTable} {rule : String} (h : t.custom.get? rule = none)
    (hb : Builtin.ofName? rule = none) (value : View) (param : String) :
    t.passes value rule param = true := by
  simp only [passes, h, hb]

/-- What the verdict of a table whose custom rules only test leaves in the trace. -/
def notes (t : RuleTable) (value : View) (rule param : String) : List Note :=
  match t.custom.get? rule with
  | some custom =>
    [.called ⟨rule, custom.origin, value, param, (custom.body value param).passes⟩]
  | none =>
    match Builtin.ofName? rule with
    | some _ => []
    | none => [.unknownRule rule]

variable {t : RuleTable} (ask : View → String → String → Run Bool)

/-- The verdict does not depend on how questions are answered, nor on the validator as it
stands. -/
theorem evaluate_of_onlyTests (h : t.OnlyTests) (value : View) (rule param : String)
    (w : Validator) :
    t.evaluate ask value rule param w =
      some ⟨t.passes value rule param, w, t.notes value rule param⟩ := by
  unfold evaluate passes notes
  cases hc : t.custom.get? rule with
  | some custom =>
    obtain ⟨passes, hbody⟩ := h rule custom hc value param
    simp only [CustomRule.call, hbody]
    rfl
  | none => cases Builtin.ofName? rule <;> rfl

/-- The rules that are run: all up to the first failing one. -/
def tried (t : RuleTable) (value : View) : List Rule → List Rule
  | [] => []
  | r :: rs => r :: if t.passes value r.name r.param then t.tried value rs else []

theorem firstFailing_of_onlyTests (h : t.OnlyTests) (value : View) (rules : List Rule)
    (w : Validator) :
    t.firstFailing ask value rules w =
      some ⟨rules.find? fun r => !t.passes value r.name r.param, w,
        (t.tried value rules).flatMap fun r => t.notes value r.name r.param⟩ := by
  induction rules with
  | nil => rfl
  | cons r rs ih =>
    have hr := evaluate_of_onlyTests ask h value r.name r.param w
    rw [firstFailing]
    cases hp : t.passes value r.name r.param with
    | true =>
      rw [hp] at hr
      rw [Run.bind_of_some hr (by simpa using ih)]
      simp [tried, hp]
    | false =>
      rw [hp] at hr
      rw [Run.bind_of_some hr (by rfl)]
      simp [tried, hp]

end RuleTable

/-! ## Fields -/

namespace Validator

/-- The failure of a field, if one of its rules fails: at the first such rule, with the message
that the catalog has for it. -/
def failure? (v : Validator) (f : Field) : Option Failure :=
  ((RuleLine.rules f.line).find? fun r => !v.rules.passes f.value.view r.name r.param).map fun r =>
    { field := f.name
      label := f.displayLabel
      rule := r.name
      param := r.param
      value := f.value.snapshot
      message := v.messages.render r.name f.displayLabel r.param }

/-- What the check of a field leaves in the trace. -/
def fieldNotes (v : Validator) (f : Field) : List Note :=
  ((v.rules.tried f.value.view (RuleLine.rules f.line)).flatMap fun r =>
      v.rules.notes f.value.view r.name r.param) ++
    ((v.failure? f).map fun failure => .fieldFailed failure.field failure.rule).toList

/-- The failures of a record, in the order of its flattening. -/
def failures (v : Validator) (record : List Entry) : List Failure :=
  (Entry.flattenAll record).filterMap v.failure?

/-- A field has no failure when all its rules pass. -/
theorem failure?_eq_none_iff {v : Validator} {f : Field} :
    v.failure? f = none ↔
      ∀ r ∈ RuleLine.rules f.line, v.rules.passes f.value.view r.name r.param = true := by
  simp [failure?]

variable {v : Validator} (ask : View → String → String → Run Bool)

theorem checkField_of_onlyTests (h : v.rules.OnlyTests) (f : Field) (w : Validator) :
    v.checkField ask f w = some ⟨v.failure? f, w, v.fieldNotes f⟩ := by
  have hfind := RuleTable.firstFailing_of_onlyTests ask h f.value.view (RuleLine.rules f.line) w
  rw [checkField]
  cases hr : (RuleLine.rules f.line).find? fun r => !v.rules.passes f.value.view r.name r.param with
  | none =>
    rw [hr] at hfind
    rw [Run.bind_of_some hfind (by rfl)]
    simp [failure?, fieldNotes, hr]
  | some r =>
    rw [hr] at hfind
    rw [Run.bind_of_some hfind (by rfl)]
    simp [failure?, fieldNotes, hr, Failure.render]

theorem checkFields_of_onlyTests (h : v.rules.OnlyTests) (fs : List Field) (w : Validator) :
    v.checkFields ask fs w = some ⟨fs.filterMap v.failure?, w, fs.flatMap v.fieldNotes⟩ := by
  induction fs with
  | nil => rfl
  | cons f fs ih =>
    have hmore : ((v.checkFields ask fs).bind fun more =>
        Run.pure ((v.failure? f).toList ++ more)) w =
          some ⟨(v.failure? f).toList ++ fs.filterMap v.failure?, w, fs.flatMap v.fieldNotes⟩ := by
      rw [Run.bind_of_some ih (by rfl)]
      simp
    rw [checkFields, Run.bind_of_some (checkField_of_onlyTests ask h f w) hmore]
    cases hf : v.failure? f <;> simp [hf]

end Validator

/-! ## Records -/

namespace Run

theorem validate_of_onlyTests {v : Validator} (h : v.rules.OnlyTests) (depth : Nat)
    (record : List Entry) :
    Run.validate depth record v =
      some ⟨Report.outcome ⟨v.failures record⟩, v,
        (Entry.flattenAll record).flatMap v.fieldNotes ++
          [.recordChecked (v.failures record).length]⟩ := by
  have hwalk :=
    Validator.checkFields_of_onlyTests (Run.evaluate depth) h (Entry.flattenAll record) v
  exact validate_eq_some_iff.2 ⟨_, hwalk, rfl⟩

/-- **What a check comes to.**  Let no custom rule talk to the validator.  Then the verdict of a
rule is a function of the table, the view and the parameter.  The check ends, at any depth of
questions, with the failures of the flattened record, or with nothing to say when there are none,
and leaves the validator as it was; there are none exactly when all rules of all fields pass.
Only the flattening matters, so that an embedded record may as well be listed in place, and what
a field contributes does not depend on the fields around it. -/
theorem validate_eq_failures (v : Validator) (h : v.rules.OnlyTests) (depth : Nat)
    (record : List Entry) :
    (∀ ask value rule param w, ∃ trace, v.rules.evaluate ask value rule param w =
      some ⟨v.rules.passes value rule param, w, trace⟩) ∧
    (∃ trace, Run.validate depth record v =
      some ⟨if v.failures record = [] then .ok () else .error ⟨v.failures record⟩, v, trace⟩) ∧
    (v.failures record = [] ↔ ∀ f ∈ Entry.flattenAll record, ∀ r ∈ RuleLine.rules f.line,
      v.rules.passes f.value.view r.name r.param = true) ∧
    (∀ other, Entry.flattenAll other = Entry.flattenAll record →
      Run.validate depth other v = Run.validate depth record v) ∧
    (∀ before inner after, record = before ++ .embedded inner :: after →
      Run.validate depth (before ++ inner ++ after) v = Run.validate depth record v) ∧
    (∀ before f after, Entry.flattenAll record = before ++ f :: after →
      v.failures record =
        before.filterMap v.failure? ++ (v.failure? f).toList ++ after.filterMap v.failure?) := by
  refine ⟨fun ask value rule param w => ?_, ?_, ?_, fun other hf => ?_,
    fun before inner after hr => ?_, fun before f after hf => ?_⟩
  · exact ⟨_, RuleTable.evaluate_of_onlyTests ask h value rule param w⟩
  · have hrun := validate_of_onlyTests h depth record
    rw [Report.outcome_mk] at hrun
    exact ⟨_, hrun⟩
  · simp only [Validator.failures, List.filterMap_eq_nil_iff, Validator.failure?_eq_none_iff]
  · rw [validate_congr hf depth]
  · rw [hr, validate_congr (Entry.flattenAll_embedded before inner after) depth]
  · cases hx : v.failure? f <;> simp [Validator.failures, hf, hx]

/-- A record with an embedded record, a custom rule and an unknown one. -/
theorem validate_eq_failures_embedded :
    ∃ trace, Run.validate 0
        [.embedded [.field { name := "id", line := "required", value := .int 0 }],
          .field { name := "age", label := some "Age", line := "new,even,gte=18",
                   value := .int 12 }]
        ⟨RuleTable.empty.install "even" (.ofTest fun v _ => v != .int 12), .english⟩ =
      some ⟨.error ⟨[⟨"id", "id", "required", "", .number (.int 0), "id is required"⟩,
          ⟨"age", "Age", "even", "", .number (.int 12), "Age failed validation"⟩]⟩,
        ⟨RuleTable.empty.install "even" (.ofTest fun v _ => v != .int 12), .english⟩, trace⟩ := by
  have h := validate_eq_failures
    ⟨RuleTable.empty.install "even" (.ofTest fun v _ => v != .int 12), .english⟩
    (RuleTable.onlyTests_empty.install (CustomRule.isTest_ofTest _) "even") 0
    [.embedded [.field { name := "id", line := "required", value := .int 0 }],
      .field { name := "age", label := some "Age", line := "new,even,gte=18", value := .int 12 }]
  obtain ⟨trace, hrun⟩ := h.2.1
  refine ⟨trace, hrun.trans ?_⟩
  rfl

end Run

end RecordCheck
