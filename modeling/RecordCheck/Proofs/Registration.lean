import RecordCheck.Builder
import RecordCheck.Proofs.Localization

/-!
# What a registration touches

A validator looks rules and templates up by their names, so registering a rule or setting a message
reaches what has that name and nothing else.  It does not matter what the name stood for before: a
custom rule, a built-in one (also one by which another built-in rule is explained), or nothing.

* `RuleTable.firstFailing_congr`, `Validator.checkFields_congr` — tables that agree on the names
  that fields ask for check the fields alike.
* `Run.validate_withRule_of_unnamed` — a rule that no field asks for changes nothing.
* `RuleTable.evaluate_install_ofTest`, `Validator.failure?_withRule_ofTest`,
  `Validator.filterMap_callOf?_flatMap` — a test that was registered is run wherever its name occurs,
  on the view as it is.
* `Validator.failures_withMessage` — a message changes the failures at its rule, and there the
  message alone.
* `Run.validate_after_registration` — this for the checks of a whole record.
-/

namespace RecordCheck

/-! ## Validators after a registration -/

namespace Validator

/-- The validator with a rule registered under a name. -/
def withRule (v : Validator) (name : String) (rule : CustomRule) : Validator :=
  { v with rules := v.rules.install name rule }

/-- The validator with the template of a rule set. -/
def withMessage (v : Validator) (rule template : String) : Validator :=
  { v with messages := v.messages.set rule template }

end Validator

namespace Run

theorem register_bind {β : Type} (name : String) (rule : CustomRule) (next : Run β)
    {v : Validator} {e : Ending β} (h : next (v.withRule name rule) = some e) :
    ((register name rule).bind fun _ => next) v =
      some ⟨e.answer, e.validator, .registered name rule :: e.trace⟩ := by
  have hfirst : register name rule v =
      some ⟨(), v.withRule name rule, [.registered name rule]⟩ := rfl
  exact bind_of_some hfirst h

theorem setMessage_bind {β : Type} (rule template : String) (next : Run β)
    {v : Validator} {e : Ending β} (h : next (v.withMessage rule template) = some e) :
    ((setMessage rule template).bind fun _ => next) v =
      some ⟨e.answer, e.validator, .messageSet rule template :: e.trace⟩ := by
  have hfirst : setMessage rule template v =
      some ⟨(), v.withMessage rule template, [.messageSet rule template]⟩ := rfl
  exact bind_of_some hfirst h

end Run

/-! ## Rules that nobody asks for -/

namespace RuleTable

variable {t u : RuleTable} (ask : View → String → String → Run Bool)

/-- A verdict depends only on what the table has under the name of the rule. -/
theorem evaluate_congr {rule : String} (h : t.custom.get? rule = u.custom.get? rule)
    (value : View) (param : String) :
    t.evaluate ask value rule param = u.evaluate ask value rule param := by
  rw [evaluate, evaluate, h]

/-- Tables that agree on the names of some rules find the same one failing. -/
theorem firstFailing_congr (value : View) {rules : List Rule}
    (h : ∀ r ∈ rules, t.custom.get? r.name = u.custom.get? r.name) :
    t.firstFailing ask value rules = u.firstFailing ask value rules := by
  induction rules with
  | nil => rfl
  | cons r rs ih =>
    have hr : t.evaluate ask value r.name r.param = u.evaluate ask value r.name r.param :=
      evaluate_congr ask (h r (List.mem_cons_self ..)) value r.param
    have hrs : t.firstFailing ask value rs = u.firstFailing ask value rs :=
      ih fun q hq => h q (List.mem_cons_of_mem _ hq)
    rw [firstFailing, firstFailing, hr, hrs]

end RuleTable

namespace Validator

variable {v w : Validator} (ask : View → String → String → Run Bool)

theorem checkField_congr (hm : v.messages = w.messages) {f : Field}
    (h : ∀ r ∈ RuleLine.rules f.line, v.rules.custom.get? r.name = w.rules.custom.get? r.name) :
    v.checkField ask f = w.checkField ask f := by
  rw [checkField, checkField, RuleTable.firstFailing_congr ask f.value.view h, hm]

/-- Validators with the same messages that agree on the names that some fields ask for check the
fields alike. -/
theorem checkFields_congr (hm : v.messages = w.messages) {fs : List Field}
    (h : ∀ f ∈ fs, ∀ r ∈ RuleLine.rules f.line,
      v.rules.custom.get? r.name = w.rules.custom.get? r.name) :
    v.checkFields ask fs = w.checkFields ask fs := by
  induction fs with
  | nil => rfl
  | cons f fs ih =>
    have hf : v.checkField ask f = w.checkField ask f :=
      checkField_congr ask hm (h f (List.mem_cons_self ..))
    have hfs : v.checkFields ask fs = w.checkFields ask fs :=
      ih fun g hg => h g (List.mem_cons_of_mem _ hg)
    rw [checkFields, checkFields, hf, hfs]

end Validator

/-- A rule that no field of a record asks for may do whatever it likes: the check of the record is
the one without it. -/
theorem Run.validate_withRule_of_unnamed {v : Validator} (h : v.rules.OnlyTests) (depth : Nat)
    {record : List Entry} {name : String}
    (hname : ∀ f ∈ Entry.flattenAll record, ∀ r ∈ RuleLine.rules f.line, r.name ≠ name)
    (rule : CustomRule) :
    Run.validate depth record (v.withRule name rule) =
      (Run.validate depth record v).map fun e =>
        ⟨e.answer, v.withRule name rule, e.trace⟩ := by
  have hagree : ∀ f ∈ Entry.flattenAll record, ∀ r ∈ RuleLine.rules f.line,
      (v.withRule name rule).rules.custom.get? r.name = v.rules.custom.get? r.name := by
    intro f hf r hr
    have hne : name ≠ r.name := fun heq => hname f hf r hr heq.symm
    exact (Dict.get?_insert _ name r.name rule).trans (if_neg hne)
  have hwalk := Validator.checkFields_of_onlyTests (Run.evaluate depth) h
    (Entry.flattenAll record) (v.withRule name rule)
  have hmessages : (v.withRule name rule).messages = v.messages := rfl
  have hcheck : (v.withRule name rule).checkFields (Run.evaluate depth) (Entry.flattenAll record) =
      v.checkFields (Run.evaluate depth) (Entry.flattenAll record) :=
    Validator.checkFields_congr (Run.evaluate depth) hmessages hagree
  rw [← hcheck] at hwalk
  rw [validate_of_onlyTests h, Option.map_some]
  exact validate_eq_some_iff.2 ⟨_, hwalk, rfl⟩

/-! ## Tests under a name -/

namespace RuleTable

/-- The verdict on a view when a name stands for a test, and every other name for what it stands
for in a table whose custom rules only test. -/
def passesWith (t : RuleTable) (name : String) (test : View → String → Bool) (value : View)
    (r : Rule) : Bool :=
  if r.name = name then test value r.param else t.passes value r.name r.param

variable {t : RuleTable} {name : String} {test : View → String → Bool}

theorem get?_install (rule : CustomRule) (other : String) :
    (t.install name rule).custom.get? other =
      if name = other then some rule else t.custom.get? other :=
  Dict.get?_insert t.custom name other rule

theorem passes_install_ofTest (value : View) (r : Rule) :
    (t.install name (.ofTest test)).passes value r.name r.param =
      t.passesWith name test value r := by
  rw [passes, get?_install, passesWith]
  by_cases hr : r.name = name
  · rw [if_pos hr.symm, if_pos hr]
    rfl
  · rw [if_neg (Ne.symm hr), if_neg hr, passes]

theorem notes_install_ofTest_self (value : View) (param : String) :
    (t.install name (.ofTest test)).notes value name param =
      [.called ⟨name, .program, value, param, test value param⟩] := by
  rw [notes, get?_install, if_pos rfl]
  rfl

/-- A test is run wherever its name is asked for, on the view and the parameter as they are; every
other name is decided as before. -/
theorem evaluate_install_ofTest (h : t.OnlyTests) (ask : View → String → String → Run Bool)
    (value : View) (r : Rule) (w : Validator) :
    (t.install name (.ofTest test)).evaluate ask value r.name r.param w =
      some ⟨t.passesWith name test value r, w,
        if r.name = name then [.called ⟨name, .program, value, r.param, test value r.param⟩]
        else t.notes value r.name r.param⟩ := by
  rw [evaluate_of_onlyTests ask (h.install (CustomRule.isTest_ofTest test) name),
    passes_install_ofTest]
  by_cases hr : r.name = name
  · rw [if_pos hr, hr, notes_install_ofTest_self]
  · have hnotes : (t.install name (.ofTest test)).notes value r.name r.param =
        t.notes value r.name r.param := by
      rw [notes, notes, get?_install, if_neg (Ne.symm hr)]
    rw [if_neg hr, hnotes]

end RuleTable

/-! ## The calls of a rule -/

theorem flatMap_ite_singleton {α β : Type} (p : α → Prop) [DecidablePred p] (g : α → β)
    (as : List α) :
    (as.flatMap fun a => if p a then [g a] else []) = (as.filter fun a => p a).map g := by
  induction as with
  | nil => rfl
  | cons a as ih => by_cases ha : p a <;> simp [ha, ih]

/-- The rules of a field that are run if this is the verdict of each: those before the first one
that rejects, and that one. -/
def RuleLine.reached (verdict : Rule → Bool) (rules : List Rule) : List Rule :=
  rules.takeWhile verdict ++ (rules.find? fun r => !verdict r).toList

theorem RuleTable.tried_eq_reached (t : RuleTable) (value : View) (rules : List Rule) :
    t.tried value rules =
      RuleLine.reached (fun r => t.passes value r.name r.param) rules := by
  induction rules with
  | nil => rfl
  | cons r rs ih =>
    rw [tried, ih]
    cases hr : t.passes value r.name r.param <;> simp [RuleLine.reached, hr]

/-- The call that a note tells of, if the rule that was called has this name. -/
def Note.callOf? (name : String) : Note → Option Call
  | .called call => if call.name = name then some call else none
  | _ => none

namespace Validator

variable {v : Validator} {name : String} {test : View → String → Bool}

theorem failure?_withRule_ofTest (f : Field) :
    (v.withRule name (.ofTest test)).failure? f =
      ((RuleLine.rules f.line).find? fun r => !v.rules.passesWith name test f.value.view r).map
        fun r => .render v.messages f.name f.displayLabel r.name r.param f.value.snapshot := by
  have hverdict : (fun r : Rule => !(v.withRule name (.ofTest test)).rules.passes f.value.view
      r.name r.param) = fun r => !v.rules.passesWith name test f.value.view r :=
    funext fun r => congrArg Bool.not (RuleTable.passes_install_ofTest f.value.view r)
  rw [failure?, hverdict]
  rfl

theorem failures_withRule_ofTest (record : List Entry) :
    (v.withRule name (.ofTest test)).failures record =
      (Entry.flattenAll record).filterMap fun f =>
        ((RuleLine.rules f.line).find? fun r =>
          !v.rules.passesWith name test f.value.view r).map fun r =>
            .render v.messages f.name f.displayLabel r.name r.param f.value.snapshot := by
  rw [failures, funext failure?_withRule_ofTest]

/-- The calls of a test in what the rules of a table leave in the trace. -/
theorem filterMap_callOf?_notes (value : View) (r : Rule) :
    ((v.rules.install name (.ofTest test)).notes value r.name r.param).filterMap
        (Note.callOf? name) =
      if r.name = name then [⟨name, .program, value, r.param, test value r.param⟩] else [] := by
  by_cases hr : r.name = name
  · rw [if_pos hr, hr, RuleTable.notes_install_ofTest_self]
    simp [Note.callOf?]
  · rw [if_neg hr, RuleTable.notes, RuleTable.get?_install, if_neg (Ne.symm hr)]
    cases v.rules.custom.get? r.name with
    | some custom => simp [Note.callOf?, hr]
    | none => cases Builtin.ofName? r.name <;> rfl

/-- The test is called for every rule of its name that is run, with the view of the field as it
is. -/
theorem filterMap_callOf?_fieldNotes (f : Field) :
    ((v.withRule name (.ofTest test)).fieldNotes f).filterMap (Note.callOf? name) =
      ((RuleLine.reached (v.rules.passesWith name test f.value.view)
        (RuleLine.rules f.line)).filter fun r => r.name = name).map fun r =>
          ⟨name, .program, f.value.view, r.param, test f.value.view r.param⟩ := by
  have hverdict : (fun r : Rule => (v.withRule name (.ofTest test)).rules.passes f.value.view
      r.name r.param) = v.rules.passesWith name test f.value.view :=
    funext fun r => RuleTable.passes_install_ofTest f.value.view r
  have hfailed : (((v.withRule name (.ofTest test)).failure? f).map fun failure =>
      Note.fieldFailed failure.field failure.rule).toList.filterMap (Note.callOf? name) = [] := by
    cases (v.withRule name (.ofTest test)).failure? f <;> rfl
  rw [fieldNotes, List.filterMap_append, hfailed, List.append_nil, List.filterMap_flatMap,
    RuleTable.tried_eq_reached, hverdict]
  simp only [withRule, filterMap_callOf?_notes]
  exact flatMap_ite_singleton _ _ _

/-- The calls of a test in a check are those of the fields, in order. -/
theorem filterMap_callOf?_flatMap (fs : List Field) :
    (fs.flatMap (v.withRule name (.ofTest test)).fieldNotes).filterMap (Note.callOf? name) =
      fs.flatMap fun f =>
        ((RuleLine.reached (v.rules.passesWith name test f.value.view)
          (RuleLine.rules f.line)).filter fun r => r.name = name).map fun r =>
            ⟨name, .program, f.value.view, r.param, test f.value.view r.param⟩ := by
  rw [List.filterMap_flatMap]
  exact congrArg (fun g => fs.flatMap g) (funext filterMap_callOf?_fieldNotes)

end Validator

/-! ## Messages -/

/-- A template that is set is used for its rule; every other rule keeps its message. -/
theorem Catalog.render_set (c : Catalog) (name template rule label param : String) :
    (c.set name template).render rule label param =
      if rule = name then
        String.ofList (fill template.toList name.toList label.toList param.toList)
      else c.render rule label param := by
  have hget : (c.set name template).get? rule =
      if name = rule then some template else c.get? rule :=
    Dict.get?_insert c.templates name rule template
  rw [render, render, templateFor, templateFor, hget]
  by_cases hrule : rule = name
  · subst hrule
    rw [if_pos rfl, if_pos rfl]
    rfl
  · rw [if_neg (Ne.symm hrule), if_neg hrule]
    rfl

namespace Failure

/-- The failure with the message that a template has for it, if it is one at this rule. -/
def reword (name template : String) (f : Failure) : Failure :=
  if f.rule = name then
    { f with
      message := String.ofList (Catalog.fill template.toList name.toList f.label.toList
        f.param.toList) }
  else f

/-- In a catalog with one template set, a failure with the message of the catalog is reworded. -/
theorem localize_set {c : Catalog} {f : Failure}
    (h : f.message = c.render f.rule f.label f.param) (name template : String) :
    f.localize (c.set name template) = f.reword name template := by
  rw [localize, Catalog.render_set, reword]
  by_cases hrule : f.rule = name
  · rw [if_pos hrule, if_pos hrule]
  · rw [if_neg hrule, if_neg hrule, ← h]

end Failure

namespace Validator

variable {v : Validator}

/-- A failure has the message that the catalog of the validator has for it. -/
theorem message_of_mem_failures {record : List Entry} {f : Failure} (h : f ∈ v.failures record) :
    f.message = v.messages.render f.rule f.label f.param := by
  obtain ⟨field, -, hfield⟩ := List.mem_filterMap.1 h
  obtain ⟨r, -, rfl⟩ := Option.map_eq_some_iff.1 hfield
  rfl

theorem failures_withMessage (record : List Entry) (name template : String) :
    (v.withMessage name template).failures record =
      (v.failures record).map (Failure.reword name template) := by
  have hlocal : (v.withMessage name template).failures record =
      (v.failures record).map (Failure.localize (v.messages.set name template)) :=
    failures_of_messages v.rules v.messages (v.messages.set name template) record
  rw [hlocal]
  refine List.map_congr_left fun f hf => ?_
  exact Failure.localize_set (message_of_mem_failures hf) name template

end Validator

/-! ## Records -/

namespace Run

/-- **A registration touches only what it names.**  Let no custom rule of a validator talk to the
validator.  A rule that is registered under a name that no field of a record asks for, whatever it
does, leaves the outcome and the trace of the check as they were.  A test that is registered under
any name decides wherever the name is asked for, and nowhere else: a field fails at the first rule
that is rejected now, and the calls of the test in the trace are those of the rules of its name that
are reached, each with the view of the field and the parameter as they are.  A message that is set
leaves the trace and the failures as they were, except that failures at its rule read as the new
template says. -/
theorem validate_after_registration (v : Validator) (h : v.rules.OnlyTests) (depth : Nat)
    (record : List Entry) (name : String) :
    (∀ rule : CustomRule,
      (∀ f ∈ Entry.flattenAll record, ∀ r ∈ RuleLine.rules f.line, r.name ≠ name) →
        ∃ outcome trace,
          Run.validate depth record v = some ⟨outcome, v, trace⟩ ∧
          ((Run.register name rule).bind fun _ => Run.validate depth record) v =
            some ⟨outcome, v.withRule name rule, .registered name rule :: trace⟩) ∧
    (∀ test : View → String → Bool,
      (∀ ask value r w, (v.withRule name (.ofTest test)).rules.evaluate ask value r.name r.param w =
        some ⟨v.rules.passesWith name test value r, w,
          if r.name = name then [.called ⟨name, .program, value, r.param, test value r.param⟩]
          else v.rules.notes value r.name r.param⟩) ∧
      ∃ trace,
        ((Run.register name (.ofTest test)).bind fun _ => Run.validate depth record) v =
          some ⟨Report.outcome ⟨(Entry.flattenAll record).filterMap fun f =>
              ((RuleLine.rules f.line).find? fun r =>
                !v.rules.passesWith name test f.value.view r).map fun r =>
                  .render v.messages f.name f.displayLabel r.name r.param f.value.snapshot⟩,
            v.withRule name (.ofTest test), .registered name (.ofTest test) :: trace⟩ ∧
        trace.filterMap (Note.callOf? name) =
          (Entry.flattenAll record).flatMap fun f =>
            ((RuleLine.reached (v.rules.passesWith name test f.value.view)
              (RuleLine.rules f.line)).filter fun r => r.name = name).map fun r =>
                ⟨name, .program, f.value.view, r.param, test f.value.view r.param⟩) ∧
    ∀ template : String, ∃ failures trace,
      Run.validate depth record v = some ⟨Report.outcome ⟨failures⟩, v, trace⟩ ∧
      ((Run.setMessage name template).bind fun _ => Run.validate depth record) v =
        some ⟨Report.outcome ⟨failures.map (Failure.reword name template)⟩,
          v.withMessage name template, .messageSet name template :: trace⟩ := by
  have hv := validate_of_onlyTests h depth record
  refine ⟨?_, ?_, ?_⟩
  · intro rule hname
    have hrule := validate_withRule_of_unnamed h depth hname rule
    rw [hv, Option.map_some] at hrule
    exact ⟨_, _, hv, register_bind name rule _ hrule⟩
  · intro test
    have hw : (v.withRule name (.ofTest test)).rules.OnlyTests :=
      h.install (CustomRule.isTest_ofTest test) name
    have htest := validate_of_onlyTests hw depth record
    rw [Validator.failures_withRule_ofTest] at htest
    refine ⟨fun ask value r w => RuleTable.evaluate_install_ofTest h ask value r w, _,
      register_bind name (.ofTest test) _ htest, ?_⟩
    rw [List.filterMap_append, Validator.filterMap_callOf?_flatMap]
    exact List.append_nil _
  · intro template
    have hw : (v.withMessage name template).rules.OnlyTests := h
    have hmessage := validate_of_onlyTests hw depth record
    have hnotes : (v.withMessage name template).fieldNotes = v.fieldNotes :=
      funext (Validator.fieldNotes_of_messages v.rules v.messages _)
    rw [hnotes, Validator.failures_withMessage, List.length_map] at hmessage
    exact ⟨_, _, hv, setMessage_bind name template _ hmessage⟩

/-- A record with an optional age that is too low, in an embedded record. -/
def applicant : List Entry :=
  [.embedded [
      .field { name := "age", line := "required,range=18-65", value := .present (.int 12) }],
    .field { name := "seats", line := "gte=1", value := .int 2 }]

/-- The one failure of the record, with a message. -/
def applicantFailure (message : String) : Failure :=
  ⟨"age", "age", "range", "18-65", .number (.int 12), message⟩

/-- A rule that would replace `range`. -/
def meddler : CustomRule :=
  ⟨.program, fun _ _ => .register "range" (fun _ _ => .answer true) (.answer false)⟩

/-- A new rule `min` is not asked by `range`; a new rule `range` sees the optional age as it is; a
new message for `range` is used. -/
theorem validate_after_registration_range :
    (∃ trace, ((Run.register "min" meddler).bind fun _ => Run.validate 1 applicant) Validator.new =
      some ⟨.error ⟨[applicantFailure "age must be between 18 and 65"]⟩,
        Validator.new.withRule "min" meddler, .registered "min" meddler :: trace⟩) ∧
    (∃ trace, ((Run.register "range" (.ofTest fun value _ => value == .present (.int 12))).bind
        fun _ => Run.validate 1 applicant) Validator.new =
      some ⟨.ok (), Validator.new.withRule "range"
          (.ofTest fun value _ => value == .present (.int 12)),
        .registered "range" (.ofTest fun value _ => value == .present (.int 12)) :: trace⟩ ∧
      trace.filterMap (Note.callOf? "range") =
        [⟨"range", .program, .present (.int 12), "18-65", true⟩]) ∧
    ∃ trace, ((Run.setMessage "range" "{field}: {min} to {max}").bind fun _ =>
        Run.validate 1 applicant) Validator.new =
      some ⟨.error ⟨[applicantFailure "age: 18 to 65"]⟩,
        Validator.new.withMessage "range" "{field}: {min} to {max}",
        .messageSet "range" "{field}: {min} to {max}" :: trace⟩ := by
  have hmin := validate_after_registration Validator.new RuleTable.onlyTests_empty 1 applicant "min"
  have hrange :=
    validate_after_registration Validator.new RuleTable.onlyTests_empty 1 applicant "range"
  have hbefore := validate_of_onlyTests (v := Validator.new) RuleTable.onlyTests_empty 1 applicant
  refine ⟨?_, ?_, ?_⟩
  · obtain ⟨outcome, trace, hv, hrun⟩ := hmin.1 meddler (by decide)
    have houtcome : outcome = .error ⟨[applicantFailure "age must be between 18 and 65"]⟩ := by
      rw [hbefore] at hv
      cases hv
      rfl
    exact ⟨trace, houtcome ▸ hrun⟩
  · obtain ⟨-, trace, hrun, hcalls⟩ := hrange.2.1 fun value _ => value == .present (.int 12)
    exact ⟨trace, hrun.trans (by rfl), hcalls.trans (by rfl)⟩
  · obtain ⟨failures, trace, hv, hrun⟩ := hrange.2.2 "{field}: {min} to {max}"
    have houtcome : Report.outcome ⟨failures⟩ =
        .error ⟨[applicantFailure "age must be between 18 and 65"]⟩ := by
      rw [hbefore] at hv
      exact (congrArg Ending.answer (Option.some.inj hv)).symm.trans (by rfl)
    obtain ⟨-, hfailures⟩ := Report.outcome_eq_error_iff.1 houtcome
    cases hfailures
    exact ⟨trace, hrun.trans (by rfl)⟩

end Run

end RecordCheck
