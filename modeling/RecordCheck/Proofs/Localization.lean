import RecordCheck.Proofs.Outcome

/-!
# Reports in other languages

The catalog of a validator decides the messages of a report and nothing else, and a failure keeps
everything that its message depends on.  So a report can be put into another language after the
check, and reads as if the check had been made with the other catalog.

* `Report.localize_localize`, `Report.foldl_localize` — of several catalogs only the last one
  counts.
* `Validator.failure?_of_messages` — the failure of a field under another catalog is its failure,
  localized.
* `Validator.failures_of_messages`, `Validator.fieldNotes_of_messages` — the same for a record, and
  the catalog leaves no mark in the trace.
* `Run.validate_of_messages` — a check with another catalog is the check, localized at its end.
* `Run.validate_localize` — what this means for reports.
-/

namespace RecordCheck

/-! ## One catalog after another -/

@[simp] theorem Failure.localize_localize (a b : Catalog) (f : Failure) :
    (f.localize a).localize b = f.localize b := rfl

namespace Report

theorem localize_localize (a b : Catalog) (r : Report) :
    (r.localize a).localize b = r.localize b := by
  simp [localize]

/-- Of several catalogs, one after the other, only the last one counts. -/
theorem foldl_localize (r : Report) (catalogs : List Catalog) (last : Catalog) :
    (catalogs.foldl (fun r c => r.localize c) r).localize last = r.localize last := by
  induction catalogs generalizing r with
  | nil => rfl
  | cons c cs ih => rw [List.foldl_cons, ih, localize_localize]

/-- A localized report is a failure where the report is one. -/
theorem outcome_localize (c : Catalog) (r : Report) :
    (r.localize c).outcome = r.outcome.mapError (Report.localize c) := by
  obtain ⟨failures⟩ := r
  cases failures <;> rfl

end Report

/-! ## One validator with two catalogs -/

namespace Validator

variable (rules : RuleTable) (a b : Catalog)

theorem failure?_of_messages (f : Field) :
    failure? ⟨rules, b⟩ f = (failure? ⟨rules, a⟩ f).map (Failure.localize b) := by
  rw [failure?, failure?, Option.map_map]
  rfl

theorem failures_of_messages (record : List Entry) :
    failures ⟨rules, b⟩ record = (failures ⟨rules, a⟩ record).map (Failure.localize b) := by
  have hfield : failure? ⟨rules, b⟩ = fun f => (failure? ⟨rules, a⟩ f).map (Failure.localize b) :=
    funext (failure?_of_messages rules a b)
  rw [failures, failures, List.map_filterMap, hfield]

/-- What the check of a field leaves in the trace does not depend on the catalog. -/
theorem fieldNotes_of_messages (f : Field) :
    fieldNotes ⟨rules, b⟩ f = fieldNotes ⟨rules, a⟩ f := by
  have hfailed :
      (failure? ⟨rules, b⟩ f).map (fun failure => Note.fieldFailed failure.field failure.rule) =
        (failure? ⟨rules, a⟩ f).map fun failure => Note.fieldFailed failure.field failure.rule := by
    rw [failure?_of_messages rules a b, Option.map_map]
    rfl
  rw [fieldNotes, fieldNotes, hfailed]

end Validator

/-! ## Records -/

namespace Run

/-- A check with another catalog is the check, localized at its end. -/
theorem validate_of_messages {rules : RuleTable} (h : rules.OnlyTests) (a b : Catalog)
    (depth : Nat) (record : List Entry) :
    Run.validate depth record ⟨rules, b⟩ =
      (Run.validate depth record ⟨rules, a⟩).map fun e =>
        ⟨e.answer.mapError (Report.localize b), ⟨rules, b⟩, e.trace⟩ := by
  have hnotes : Validator.fieldNotes ⟨rules, b⟩ = Validator.fieldNotes ⟨rules, a⟩ :=
    funext (Validator.fieldNotes_of_messages rules a b)
  rw [validate_of_onlyTests h, validate_of_onlyTests h, hnotes,
    Validator.failures_of_messages rules a b, List.length_map, Option.map_some,
    ← Report.outcome_localize]
  rfl

/-- **Checking with another catalog is localizing the report.**  Let no custom rule talk to the
validator.  Whatever two catalogs it has, a record passes with both or with neither, with the
same trace; if it fails, the report under the second catalog is that under the first one,
localized.  So a report is not changed by the catalog that it was made with, and of several
catalogs, one after the other, only the last one counts. -/
theorem validate_localize (rules : RuleTable) (h : rules.OnlyTests) (depth : Nat)
    (record : List Entry) :
    (∀ a b : Catalog, ∃ outcome other trace,
      Run.validate depth record ⟨rules, a⟩ = some ⟨outcome, ⟨rules, a⟩, trace⟩ ∧
      Run.validate depth record ⟨rules, b⟩ = some ⟨other, ⟨rules, b⟩, trace⟩ ∧
      (outcome = .ok () ↔ other = .ok ()) ∧
      ∀ report, outcome = .error report → other = .error (report.localize b)) ∧
    (∀ (c : Catalog) (report : Report) (w : Validator) (trace : List Note),
      Run.validate depth record ⟨rules, c⟩ = some ⟨.error report, w, trace⟩ →
        report.localize c = report) ∧
    ∀ (report : Report) (catalogs : List Catalog) (last : Catalog),
      (catalogs ++ [last]).foldl (fun r c => r.localize c) report = report.localize last := by
  refine ⟨?_, ?_, ?_⟩
  · intro a b
    have ha := validate_of_onlyTests (v := ⟨rules, a⟩) h depth record
    have hb := validate_of_messages h a b depth record
    rw [ha, Option.map_some] at hb
    refine ⟨_, _, _, ha, hb, ?_, ?_⟩
    · cases Report.outcome ⟨Validator.failures ⟨rules, a⟩ record⟩ with
      | ok => exact iff_of_true rfl rfl
      | error => exact iff_of_false nofun nofun
    · intro report hreport
      rw [hreport]
      rfl
  · intro c report w trace hc
    have hsame := validate_of_messages h c c depth record
    rw [hc, Option.map_some] at hsame
    have hanswer : (.error report : Except Report Unit) = .error (report.localize c) :=
      congrArg Ending.answer (Option.some.inj hsame)
    exact (Except.error.inj hanswer).symm
  · intro report catalogs last
    rw [List.foldl_append]
    exact report.foldl_localize catalogs last

/-- A range that fails reads in Chinese as if it had been checked in Chinese. -/
theorem validate_localize_range :
    ∃ report trace,
      Run.validate 0 [.field { name := "age", label := some "年龄", line := "range=18-120",
                               value := .int 12 }] ⟨.empty, .english⟩ =
        some ⟨.error report, ⟨.empty, .english⟩, trace⟩ ∧
      report.messages = ["年龄 must be between 18 and 120"] ∧
      (report.localize .chinese).messages = ["年龄长度必须在18-120之间"] ∧
      Run.validate 0 [.field { name := "age", label := some "年龄", line := "range=18-120",
                               value := .int 12 }] ⟨.empty, .chinese⟩ =
        some ⟨.error (report.localize .chinese), ⟨.empty, .chinese⟩, trace⟩ := by
  have h := validate_localize .empty RuleTable.onlyTests_empty 0
    [.field { name := "age", label := some "年龄", line := "range=18-120", value := .int 12 }]
  obtain ⟨outcome, other, trace, hen, hzh, -, hlocal⟩ := h.1 .english .chinese
  have hfailed : outcome = .error ⟨[⟨"age", "年龄", "range", "18-120", .number (.int 12),
      "年龄 must be between 18 and 120"⟩]⟩ := by
    rw [validate_of_onlyTests RuleTable.onlyTests_empty] at hen
    cases hen
    rfl
  rw [hlocal _ hfailed] at hzh
  rw [hfailed] at hen
  exact ⟨_, trace, hen, by rfl, by rfl, hzh⟩

end Run

end RecordCheck
