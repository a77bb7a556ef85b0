import RecordCheck.Proofs.Outcome

/-!
# What a check leaves in the trace

As long as custom rules only test, the trace of a check tells exactly how it came to its result.
Field after field, the rules are run in order up to and including the first one that fails; each
leaves what it has to tell, a field that failed leaves a note of its own, and the check ends with
the number of failures.

* `RuleTable.tried_of_forall_passes`, `RuleTable.tried_append_cons` — the rules that are run.
* `RuleTable.notes_of_custom`, `RuleTable.notes_of_builtin`, `RuleTable.notes_of_unknown` — what a
  rule tells.
* `Validator.fieldNotes_of_passes`, `Validator.fieldNotes_of_fails` — what a field tells.
* `Validator.filter_isFieldFailed_flatMap` — the notes of failed fields are those of the failures.
* `Run.validate_trace` — the trace of a whole check.
-/

namespace RecordCheck

/-- Does a note tell of a field that failed? -/
def Note.isFieldFailed : Note → Bool
  | .fieldFailed _ _ => true
  | _ => false

/-! ## Rules -/

namespace RuleTable

variable {t : RuleTable} {value : View}

/-- When every rule passes, every rule is run. -/
theorem tried_of_forall_passes {rules : List Rule}
    (h : ∀ r ∈ rules, t.passes value r.name r.param = true) : t.tried value rules = rules := by
  induction rules with
  | nil => rfl
  | cons r rs ih =>
    have hr : t.passes value r.name r.param = true := h r (List.mem_cons_self ..)
    have hrs : t.tried value rs = rs := ih fun q hq => h q (List.mem_cons_of_mem _ hq)
    rw [tried, if_pos hr, hrs]

/-- No rule after the first failing one is run. -/
theorem tried_append_cons {before after : List Rule} {r : Rule}
    (hbefore : ∀ q ∈ before, t.passes value q.name q.param = true)
    (hr : t.passes value r.name r.param = false) :
    t.tried value (before ++ r :: after) = before ++ [r] := by
  induction before with
  | nil => rw [List.nil_append, List.nil_append, tried, if_neg (by simp [hr])]
  | cons q qs ih =>
    have hq : t.passes value q.name q.param = true := hbefore q (List.mem_cons_self ..)
    have hqs : t.tried value (qs ++ r :: after) = qs ++ [r] :=
      ih fun p hp => hbefore p (List.mem_cons_of_mem _ hp)
    rw [List.cons_append, tried, if_pos hq, hqs, List.cons_append]

/-! ## What a rule tells -/

theorem notes_of_custom {rule : String} {custom : CustomRule}
    (h : t.custom.get? rule = some custom) (value : View) (param : String) :
    t.notes value rule param =
      [.called ⟨rule, custom.origin, value, param, t.passes value rule param⟩] := by
  rw [notes, passes, h]

theorem notes_of_builtin {rule : String} {b : Builtin} (h : t.custom.get? rule = none)
    (hb : Builtin.ofName? rule = some b) (value : View) (param : String) :
    t.notes value rule param = [] := by
  simp only [notes, h, hb]

theorem notes_of_unknown {rule : String} (h : t.custom.get? rule = none)
    (hb : Builtin.ofName? rule = none) (value : View) (param : String) :
    t.notes value rule param = [.unknownRule rule] := by
  simp only [notes, h, hb]

/-- A rule does not tell of failed fields. -/
theorem isFieldFailed_of_mem_notes {rule param : String} {n : Note}
    (hn : n ∈ t.notes value rule param) : n.isFieldFailed = false := by
  cases hc : t.custom.get? rule with
  | some custom =>
    rw [notes_of_custom hc, List.mem_singleton] at hn
    rw [hn]
    rfl
  | none =>
    cases hb : Builtin.ofName? rule with
    | some b =>
      rw [notes_of_builtin hc hb] at hn
      exact absurd hn List.not_mem_nil
    | none =>
      rw [notes_of_unknown hc hb, List.mem_singleton] at hn
      rw [hn]
      rfl

end RuleTable

/-! ## What a field tells -/

namespace Validator

/-- What some rules of a field tell when they are run one after the other. -/
def ruleNotes (v : Validator) (f : Field) (rules : List Rule) : List Note :=
  rules.flatMap fun r => v.rules.notes f.value.view r.name r.param

variable {v : Validator} {f : Field}

/-- A field of which every rule passes tells what its rules tell. -/
theorem fieldNotes_of_passes
    (h : ∀ r ∈ RuleLine.rules f.line, v.rules.passes f.value.view r.name r.param = true) :
    v.fieldNotes f = v.ruleNotes f (RuleLine.rules f.line) := by
  have hnone : v.failure? f = none := failure?_eq_none_iff.2 h
  rw [fieldNotes, RuleTable.tried_of_forall_passes h, hnone]
  exact List.append_nil _

/-- A field that fails tells what its rules tell up to the failing one, and that it failed
there. -/
theorem fieldNotes_of_fails {before after : List Rule} {r : Rule}
    (hline : RuleLine.rules f.line = before ++ r :: after)
    (hbefore : ∀ q ∈ before, v.rules.passes f.value.view q.name q.param = true)
    (hr : v.rules.passes f.value.view r.name r.param = false) :
    v.fieldNotes f = v.ruleNotes f (before ++ [r]) ++ [.fieldFailed f.name r.name] := by
  have hfind : ((RuleLine.rules f.line).find? fun q =>
      !v.rules.passes f.value.view q.name q.param) = some r := by
    rw [hline, List.find?_eq_some_iff_append]
    exact ⟨by simpa using hr, before, after, rfl, by simpa using hbefore⟩
  have hsome : (v.failure? f).map (fun failure => Note.fieldFailed failure.field failure.rule) =
      some (.fieldFailed f.name r.name) := by
    rw [failure?, hfind]
    rfl
  rw [fieldNotes, hsome, hline, RuleTable.tried_append_cons hbefore hr]
  rfl

/-! ## Failures in the trace -/

/-- A field tells of a failure exactly if it has one, by its name and the rule. -/
theorem filter_isFieldFailed_fieldNotes (v : Validator) (f : Field) :
    (v.fieldNotes f).filter Note.isFieldFailed =
      ((v.failure? f).map fun failure => .fieldFailed failure.field failure.rule).toList := by
  have hrules : (v.ruleNotes f (v.rules.tried f.value.view (RuleLine.rules f.line))).filter
      Note.isFieldFailed = [] := by
    rw [List.filter_eq_nil_iff]
    intro n hn
    obtain ⟨r, -, hnr⟩ := List.mem_flatMap.1 hn
    rw [RuleTable.isFieldFailed_of_mem_notes hnr]
    exact Bool.false_ne_true
  rw [ruleNotes] at hrules
  rw [fieldNotes, List.filter_append, hrules, List.nil_append]
  cases v.failure? f <;> rfl

/-- The notes of failed fields are those of the failures, in order. -/
theorem filter_isFieldFailed_flatMap (v : Validator) (fs : List Field) :
    (fs.flatMap v.fieldNotes).filter Note.isFieldFailed =
      (fs.filterMap v.failure?).map fun failure => .fieldFailed failure.field failure.rule := by
  induction fs with
  | nil => rfl
  | cons f fs ih =>
    rw [List.flatMap_cons, List.filter_append, ih, filter_isFieldFailed_fieldNotes]
    cases hf : v.failure? f <;> simp [hf]

end Validator

/-! ## Records -/

namespace Run

/-- **The trace mirrors the result.**  Let no custom rule talk to the validator.  The trace of a
check is what the fields of the flattened record tell, one after the other, and then the number of
failures that the check reports; the notes of failed fields are those of these failures.  A field
whose rules all pass tells what its rules tell; a field that fails tells this of its rules up to
the failing one, and then that it failed.  A custom rule tells of its one call with the view and
the parameter as they are, a built-in rule tells nothing, and any other rule that nobody knows
it. -/
theorem validate_trace (v : Validator) (h : v.rules.OnlyTests) (depth : Nat)
    (record : List Entry) :
    (∃ failures trace,
      Run.validate depth record v =
        some ⟨if failures = [] then .ok () else .error ⟨failures⟩, v,
          trace ++ [.recordChecked failures.length]⟩ ∧
      trace = (Entry.flattenAll record).flatMap v.fieldNotes ∧
      trace.filter Note.isFieldFailed =
        (failures.map fun failure => .fieldFailed failure.field failure.rule) ∧
      trace.countP Note.isFieldFailed = failures.length) ∧
    (∀ f : Field,
      (∀ r ∈ RuleLine.rules f.line, v.rules.passes f.value.view r.name r.param = true) →
        v.fieldNotes f = v.ruleNotes f (RuleLine.rules f.line)) ∧
    (∀ (f : Field) (before after : List Rule) (r : Rule),
      RuleLine.rules f.line = before ++ r :: after →
      (∀ q ∈ before, v.rules.passes f.value.view q.name q.param = true) →
      v.rules.passes f.value.view r.name r.param = false →
        v.fieldNotes f = v.ruleNotes f (before ++ [r]) ++ [.fieldFailed f.name r.name]) ∧
    (∀ ask value rule param w, v.rules.evaluate ask value rule param w =
      some ⟨v.rules.passes value rule param, w, v.rules.notes value rule param⟩) ∧
    ∀ value rule param,
      (∀ custom, v.rules.custom.get? rule = some custom →
        v.rules.notes value rule param =
          [.called ⟨rule, custom.origin, value, param, v.rules.passes value rule param⟩]) ∧
      (v.rules.custom.get? rule = none →
        v.rules.notes value rule param =
          if (Builtin.ofName? rule).isSome then [] else [.unknownRule rule]) := by
  refine ⟨?_, ?_, ?_, ?_, ?_⟩
  · have hrun := validate_of_onlyTests h depth record
    rw [Report.outcome_mk] at hrun
    have hfailed := v.filter_isFieldFailed_flatMap (Entry.flattenAll record)
    refine ⟨_, _, hrun, rfl, hfailed, ?_⟩
    rw [List.countP_eq_length_filter, hfailed, List.length_map]
    rfl
  · intro f hpasses
    exact Validator.fieldNotes_of_passes hpasses
  · intro f before after r hline hbefore hr
    exact Validator.fieldNotes_of_fails hline hbefore hr
  · intro ask value rule param w
    exact RuleTable.evaluate_of_onlyTests ask h value rule param w
  · intro value rule param
    refine ⟨fun custom hc => RuleTable.notes_of_custom hc value param, ?_⟩
    intro hc
    cases hb : Builtin.ofName? rule with
    | some b => exact RuleTable.notes_of_builtin hc hb value param
    | none => exact RuleTable.notes_of_unknown hc hb value param

/-- A validator with English messages and one custom rule, which fails the number 12. -/
def notTwelve : Validator :=
  ⟨RuleTable.empty.install "notTwelve" (.ofTest fun value _ => value != .int 12), .english⟩

/-- An embedded field fails at a built-in rule; the next field fails at its custom rule, after an
unknown one and before a built-in one. -/
theorem validate_trace_embedded :
    (∃ report,
      Run.validate 0 [.embedded [.field { name := "id", line := "required", value := .int 0 }],
          .field { name := "age", line := "new,notTwelve,gte=18", value := .int 12 }] notTwelve =
        some ⟨.error report, notTwelve,
          [.fieldFailed "id" "required", .unknownRule "new",
            .called ⟨"notTwelve", .program, .int 12, "", false⟩, .fieldFailed "age" "notTwelve",
            .recordChecked 2]⟩) ∧
    notTwelve.fieldNotes { name := "age", line := "new,notTwelve,gte=18", value := .int 12 } =
      notTwelve.ruleNotes { name := "age", line := "new,notTwelve,gte=18", value := .int 12 }
        [⟨"new", ""⟩, ⟨"notTwelve", ""⟩] ++ [.fieldFailed "age" "notTwelve"] ∧
    notTwelve.fieldNotes { name := "age", line := "new", value := .int 12 } =
      notTwelve.ruleNotes { name := "age", line := "new", value := .int 12 } [⟨"new", ""⟩] := by
  have h := validate_trace notTwelve
    (RuleTable.onlyTests_empty.install (CustomRule.isTest_ofTest _) "notTwelve") 0
    [.embedded [.field { name := "id", line := "required", value := .int 0 }],
      .field { name := "age", line := "new,notTwelve,gte=18", value := .int 12 }]
  refine ⟨?_, ?_, ?_⟩
  · obtain ⟨failures, trace, hrun, htrace, -, hcount⟩ := h.1
    have htold : trace = [.fieldFailed "id" "required", .unknownRule "new",
        .called ⟨"notTwelve", .program, .int 12, "", false⟩, .fieldFailed "age" "notTwelve"] :=
      htrace.trans rfl
    rw [htold] at hrun hcount
    have hlength : failures.length = 2 := hcount.symm
    have hne : failures ≠ [] := by
      rintro rfl
      cases hlength
    rw [if_neg hne, hlength] at hrun
    exact ⟨_, hrun⟩
  · exact h.2.2.1 _ [⟨"new", ""⟩] [⟨"gte", "18"⟩] ⟨"notTwelve", ""⟩ (by decide) (by decide)
      (by decide)
  · exact h.2.1 { name := "age", line := "new", value := .int 12 } (by decide)

end Run

end RecordCheck
