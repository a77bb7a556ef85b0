import RecordCheck.Proofs.Optional
import RecordCheck.Proofs.Payload

/-!
# Missing members

A member that a payload does not have counts as `null`, and rules see a missing value.  Without
custom rules, only `required` rejects a missing value: every other built-in rule is content with it
before it reads its parameter, and a rule that nobody knows never fails.  So a missing member fails
exactly if its rule line asks for `required`, wherever in the line, and it fails at the first place
that does.

* `RuleTable.passes_absent` — the verdicts on a missing value.
* `Json.IsMissing`, `FieldRule.failure?` — a member that a payload does not have, and what a rule
  line contributes to the report of a payload.
* `FieldRule.failure?_of_isMissing` — the contribution of a rule line whose member is missing.
* `Run.validateJson_of_missing` — this for the check of a whole payload.
-/

namespace RecordCheck

/-! ## Missing values -/

/-- Of a missing value only `required` fails, whatever the parameter is. -/
theorem RuleTable.passes_absent {t : RuleTable} {rule : String} (h : t.custom.get? rule = none)
    (param : String) : t.passes .absent rule param = (rule != "required") := by
  cases hb : Builtin.ofName? rule with
  | some b =>
    rw [passes_of_builtin h hb, Builtin.holds_absent, Bool.eq_iff_iff, bne_iff_ne, bne_iff_ne,
      not_iff_not]
    constructor
    · rintro rfl
      exact (Builtin.name_of_ofName? hb).symm
    · rintro rfl
      exact (Option.some.inj hb).symm
  | none =>
    have hne : rule ≠ "required" := by
      rintro rfl
      cases hb
    rw [passes_of_unknown h hb, bne_iff_ne.2 hne]

/-- The first rule that a missing value fails is the first `required`. -/
theorem Validator.failure?_of_absent {c : Catalog} {f : Field} (h : f.value.view = .absent) :
    failure? ⟨.empty, c⟩ f = ((RuleLine.rules f.line).find? fun q => q.name == "required").map
      fun q => .render c f.name f.displayLabel q.name q.param f.value.snapshot := by
  have hfails : (fun q : Rule => !RuleTable.empty.passes f.value.view q.name q.param) =
      fun q => q.name == "required" := by
    funext q
    rw [h, RuleTable.passes_absent rfl, bne, Bool.not_not]
  rw [failure?, hfails]
  rfl

/-! ## Missing members -/

/-- An object does not have a member of this name, or has `null` there. -/
def Json.IsMissing (members : List (String × Json)) (name : String) : Prop :=
  member? members name = none ∨ member? members name = some .null

theorem FieldRules.found_of_isMissing {members : List (String × Json)} {r : FieldRule}
    (h : Json.IsMissing members r.field) : found members r = .null := by
  unfold found
  rcases h with h | h
  · rw [h, Option.getD_none]
  · rw [h, Option.getD_some]

namespace FieldRule

/-- What a rule line contributes to the report of a payload without custom rules. -/
def failure? (r : FieldRule) (c : Catalog) (members : List (String × Json)) : Option Failure :=
  Validator.failure? ⟨.empty, c⟩ (r.toField (FieldRules.found members r))

variable {r : FieldRule} {c : Catalog} {members : List (String × Json)}

theorem field_of_failure? {failure : Failure} (h : r.failure? c members = some failure) :
    failure.field = r.field := by
  obtain ⟨q, -, rfl⟩ := Option.map_eq_some_iff.1 h
  rfl

variable (h : Json.IsMissing members r.field)

include h

/-- A rule line whose member is missing contributes a failure at its first `required`. -/
theorem failure?_of_isMissing :
    r.failure? c members = ((RuleLine.rules r.line).find? fun q => q.name == "required").map
      fun q => .render c r.field (r.toField .null).displayLabel q.name q.param .null := by
  rw [failure?, FieldRules.found_of_isMissing h, Validator.failure?_of_absent rfl]
  rfl

theorem isSome_failure?_iff :
    (r.failure? c members).isSome ↔ ∃ q ∈ RuleLine.rules r.line, q.name = "required" := by
  rw [failure?_of_isMissing h, Option.isSome_map, List.find?_isSome]
  simp only [beq_iff_eq]

theorem exists_required_of_failure? {failure : Failure}
    (hfailure : r.failure? c members = some failure) :
    ∃ before q after, RuleLine.rules r.line = before ++ q :: after ∧
      (∀ p ∈ before, p.name ≠ "required") ∧ q.name = "required" ∧
      failure =
        .render c r.field (r.toField .null).displayLabel "required" q.param .null := by
  rw [failure?_of_isMissing h] at hfailure
  obtain ⟨q, hq, rfl⟩ := Option.map_eq_some_iff.1 hfailure
  obtain ⟨hname, before, after, hline, hbefore⟩ := List.find?_eq_some_iff_append.1 hq
  have hrequired : q.name = "required" := beq_iff_eq.1 hname
  refine ⟨before, q, after, hline, ?_, hrequired, by rw [hrequired]⟩
  intro p hp
  have hpasses := hbefore p hp
  rwa [Bool.not_eq_true', beq_eq_false_iff_ne] at hpasses

end FieldRule

/-! ## Payloads -/

namespace Run

/-- Without custom rules, the report of a payload is what its rule lines contribute, in order. -/
theorem validateJson_eq_failures (c : Catalog) (depth : Nat) (rules : FieldRules)
    (members : List (String × Json)) :
    ∃ trace, Run.validateJson depth (.object members) rules ⟨.empty, c⟩ =
      some ⟨(Report.outcome ⟨rules.rules.filterMap fun r => r.failure? c members⟩).mapError .invalid,
        ⟨.empty, c⟩, trace⟩ := by
  have hfailures : Validator.failures ⟨.empty, c⟩ (rules.record members) =
      rules.rules.filterMap fun r => r.failure? c members := by
    rw [Validator.failures, FieldRules.flattenAll_record, List.filterMap_map]
    rfl
  have hrun := validate_of_onlyTests (v := ⟨.empty, c⟩) RuleTable.onlyTests_empty depth
    (rules.record members)
  rw [hfailures] at hrun
  exact ⟨_, validateJson_object_eq_some_iff.2 ⟨_, hrun, rfl⟩⟩

/-- **Only `required` rejects a missing member.**  Without custom rules, the check of an object
ends, and its report is what the rule lines contribute, in order.  A rule line whose member is
missing or `null` contributes a failure exactly if one of its rules has the name `required`,
whatever the others are and however their parameters read; the failure is at `required`, with the
parameter of the first rule of this name, and keeps the value `null`.  So the report names a
missing member exactly if one of the rule lines for it asks for `required`. -/
theorem validateJson_of_missing (c : Catalog) (depth : Nat) (rules : FieldRules)
    (members : List (String × Json)) :
    ∃ failures trace,
      Run.validateJson depth (.object members) rules ⟨.empty, c⟩ =
        some ⟨(Report.outcome ⟨failures⟩).mapError .invalid, ⟨.empty, c⟩, trace⟩ ∧
      failures = (rules.rules.filterMap fun r => r.failure? c members) ∧
      (∀ r ∈ rules.rules, Json.IsMissing members r.field →
        ((r.failure? c members).isSome ↔ ∃ q ∈ RuleLine.rules r.line, q.name = "required") ∧
        ∀ failure, r.failure? c members = some failure →
          ∃ before q after, RuleLine.rules r.line = before ++ q :: after ∧
            (∀ p ∈ before, p.name ≠ "required") ∧ q.name = "required" ∧
            failure =
              .render c r.field (r.toField .null).displayLabel "required" q.param .null) ∧
      (∀ name, Json.IsMissing members name →
        ((∃ failure ∈ failures, failure.field = name) ↔
          ∃ r ∈ rules.rules, r.field = name ∧ ∃ q ∈ RuleLine.rules r.line, q.name = "required")) := by
  obtain ⟨trace, hrun⟩ := validateJson_eq_failures c depth rules members
  refine ⟨_, trace, hrun, rfl, ?_, ?_⟩
  · intro r _ h
    exact ⟨FieldRule.isSome_failure?_iff h, fun _ => FieldRule.exists_required_of_failure? h⟩
  · intro name h
    constructor
    · rintro ⟨failure, hmem, rfl⟩
      obtain ⟨r, hr, hfailure⟩ := List.mem_filterMap.1 hmem
      rw [FieldRule.field_of_failure? hfailure] at h
      refine ⟨r, hr, (FieldRule.field_of_failure? hfailure).symm, ?_⟩
      exact (FieldRule.isSome_failure?_iff h).1 (Option.isSome_of_eq_some hfailure)
    · rintro ⟨r, hr, rfl, hrequired⟩
      obtain ⟨failure, hfailure⟩ :=
        Option.isSome_iff_exists.1 ((FieldRule.isSome_failure?_iff (c := c) h).2 hrequired)
      exact ⟨failure, List.mem_filterMap.2 ⟨r, hr, hfailure⟩, FieldRule.field_of_failure? hfailure⟩

/-- A rule line that asks for `required` twice, after rules whose parameters do not read. -/
def ageRule : FieldRule :=
  ⟨"age", "min=x,regex=(,required=a,required=b", some "Age"⟩

/-- A rule line that does not ask for `required`, with a rule that nobody knows. -/
def nameRule : FieldRule :=
  ⟨"name", "new,len=-1,email,oneof=", none⟩

/-- A missing age fails at its first `required`; a name that is `null` does not fail. -/
theorem validateJson_of_missing_age :
    ∃ failures trace,
      Run.validateJson 0 (.object [("name", .null)]) ⟨[nameRule, ageRule]⟩ ⟨.empty, .english⟩ =
        some ⟨.error (.invalid ⟨failures⟩), ⟨.empty, .english⟩, trace⟩ ∧
      failures = [⟨"age", "Age", "required", "a", .null, "Age is required"⟩] ∧
      (∃ before q after, RuleLine.rules ageRule.line = before ++ q :: after ∧
        (∀ p ∈ before, p.name ≠ "required") ∧ q.name = "required" ∧ q.param = "a") ∧
      ¬ ∃ failure ∈ failures, failure.field = "name" := by
  obtain ⟨failures, trace, hrun, hfailures, hlines, hnames⟩ :=
    validateJson_of_missing .english 0 ⟨[nameRule, ageRule]⟩ [("name", .null)]
  have hage : ageRule.failure? .english [("name", .null)] =
      some ⟨"age", "Age", "required", "a", .null, "Age is required"⟩ := rfl
  obtain ⟨before, q, after, hline, hbefore, hq, hfailure⟩ :=
    (hlines ageRule (by simp) (.inl rfl)).2 _ hage
  have hone : failures = [⟨"age", "Age", "required", "a", .null, "Age is required"⟩] :=
    hfailures.trans rfl
  subst hone
  refine ⟨_, trace, hrun, rfl, ⟨before, q, after, hline, hbefore, hq, ?_⟩, ?_⟩
  · exact (congrArg Failure.param hfailure).symm
  · rw [hnames "name" (.inr rfl)]
    rintro ⟨r, hr, hname, hrequired⟩
    have hrule : r = nameRule ∨ r = ageRule := by simpa using hr
    rcases hrule with rfl | rfl
    · exact absurd hrequired (by decide)
    · exact absurd hname (by decide)

end Run

end RecordCheck
