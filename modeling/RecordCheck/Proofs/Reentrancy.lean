import RecordCheck.Proofs.Walk

/-!
# Rules that talk to the validator while it checks

A custom rule may register rules, set messages and ask for verdicts while a record is being
checked.  Three readers then look at the validator: the walk picks the rules of the fields, the
failures take their messages from the catalog, and questions of rules are answered.

* `Validator.after` — the validator after everything in a trace has happened to it.
* `Validator.IsAfter` — what can be found in it: of the rules registered under a name and of the
  templates set for a rule the last one, and otherwise what was there before the trace.
* `Script.Answers`, `RuleTable.Decides`, `Validator.FirstFails`, `Validator.Reports` — what
  scripts answer and what a check reports, in terms of the validator at the start and of what has
  happened since.  Questions are answered by all rules registered so far; the walk and its messages
  know only the start.
* `Run.reports_of_validate`, `Run.validate_of_reports` — a check ends exactly as this says.
* `Run.validate_isolated` — the same, with what can be found in the validator that is left.
-/

namespace RecordCheck

/-! ## The validator after a trace -/

namespace Note

/-- The rule that an entry of a trace registers under a name. -/
def rule? (name : String) : Note → Option CustomRule
  | .registered other custom => if other = name then some custom else none
  | _ => none

/-- The template that an entry of a trace sets for a rule. -/
def template? (rule : String) : Note → Option String
  | .messageSet other template => if other = rule then some template else none
  | _ => none

end Note

namespace Validator

/-- What an entry of a trace does to a validator: registrations and new messages change it, nothing
else does. -/
def learn (v : Validator) : Note → Validator
  | .registered name rule => { v with rules := v.rules.install name rule }
  | .messageSet rule template => { v with messages := v.messages.set rule template }
  | _ => v

/-- The validator after everything in a trace has happened to it, in order. -/
def after (v : Validator) (trace : List Note) : Validator :=
  trace.foldl learn v

theorem after_snoc (v : Validator) (trace : List Note) (n : Note) :
    v.after (trace ++ [n]) = (v.after trace).learn n := by
  rw [after, List.foldl_append]
  rfl

/-- `v.IsAfter start trace`: a rule is found in `v` as it was registered last in `trace`, and a
template as it was set last; what `trace` says nothing of is found as it was in `start`. -/
structure IsAfter (v start : Validator) (trace : List Note) : Prop where
  rule (name : String) : v.rules.custom.get? name =
    ((trace.filterMap (Note.rule? name)).getLast?).or (start.rules.custom.get? name)
  template (rule : String) : v.messages.get? rule =
    ((trace.filterMap (Note.template? rule)).getLast?).or (start.messages.get? rule)
  fallback : v.messages.fallback = start.messages.fallback

theorem get?_rules_learn (v : Validator) (n : Note) (name : String) :
    (v.learn n).rules.custom.get? name = (n.rule? name).or (v.rules.custom.get? name) := by
  cases n with
  | registered other custom =>
    show (v.rules.custom.insert other custom).get? name = _
    rw [Dict.get?_insert, Note.rule?]
    split <;> rfl
  | called | unknownRule | fieldFailed | recordChecked | messageSet | payloadRejected => rfl

theorem get?_messages_learn (v : Validator) (n : Note) (rule : String) :
    (v.learn n).messages.get? rule = (n.template? rule).or (v.messages.get? rule) := by
  cases n with
  | messageSet other template =>
    show (v.messages.set other template).get? rule = _
    rw [Catalog.get?_set, Note.template?]
    split <;> rfl
  | called | unknownRule | fieldFailed | recordChecked | registered | payloadRejected => rfl

theorem fallback_learn (v : Validator) (n : Note) :
    (v.learn n).messages.fallback = v.messages.fallback := by
  cases n <;> rfl

/-- None of what a trace tells is lost, and of two writes to one place the later one counts. -/
theorem isAfter_after (start : Validator) (trace : List Note) :
    (start.after trace).IsAfter start trace where
  rule name := foldl_last_write (fun v => v.rules.custom.get? name)
    (fun v n _ => v.get?_rules_learn n name) start
  template rule := foldl_last_write (fun v => v.messages.get? rule)
    (fun v n _ => v.get?_messages_learn n rule) start
  fallback := by
    induction trace generalizing start with
    | nil => rfl
    | cons n trace ih => exact (ih (start.learn n)).trans (start.fallback_learn n)

end Validator

/-! ## What scripts answer -/

mutual

/-- `Script.Answers start past s passes new`: a script `s` that is run when `past` has happened
since `start` answers `passes`, and `new` happens meanwhile.  What it asks is decided by the rules
of the validator after all of `past`. -/
inductive Script.Answers (start : Validator) :
    List Note → Script → Bool → List Note → Prop where
  | answer {past : List Note} {passes : Bool} :
      Script.Answers start past (.answer passes) passes []
  | register {past new : List Note} {name : String} {body : View → String → Script}
      {next : Script} {passes : Bool} :
      Script.Answers start (past ++ [.registered name ⟨.script, body⟩]) next passes new →
      Script.Answers start past (.register name body next) passes
        (.registered name ⟨.script, body⟩ :: new)
  | setMessage {past new : List Note} {rule template : String} {next : Script} {passes : Bool} :
      Script.Answers start (past ++ [.messageSet rule template]) next passes new →
      Script.Answers start past (.setMessage rule template next) passes
        (.messageSet rule template :: new)
  | ask {past first rest : List Note} {value : View} {rule param : String}
      {next : Bool → Script} {passed passes : Bool} :
      RuleTable.Decides start (start.after past).rules past value rule param passed first →
      Script.Answers start (past ++ first) (next passed) passes rest →
      Script.Answers start past (.ask value rule param next) passes (first ++ rest)

/-- `RuleTable.Decides start t past value rule param passed new`: when `past` has happened since
`start`, the table `t` comes to the verdict `passed`, and `new` happens meanwhile. -/
inductive RuleTable.Decides (start : Validator) :
    RuleTable → List Note → View → String → String → Bool → List Note → Prop where
  | custom {t : RuleTable} {past new : List Note} {value : View} {rule param : String}
      {custom : CustomRule} {passed : Bool} :
      t.custom.get? rule = some custom →
      Script.Answers start past (custom.body value param) passed new →
      RuleTable.Decides start t past value rule param passed
        (new ++ [.called ⟨rule, custom.origin, value, param, passed⟩])
  | builtin {t : RuleTable} {past : List Note} {value : View} {rule param : String}
      {b : Builtin} :
      t.custom.get? rule = none → Builtin.ofName? rule = some b →
      RuleTable.Decides start t past value rule param (b.holds value param.toList) []
  | unknown {t : RuleTable} {past : List Note} {value : View} {rule param : String} :
      t.custom.get? rule = none → Builtin.ofName? rule = none →
      RuleTable.Decides start t past value rule param true [.unknownRule rule]

end

/-! ## What a check reports -/

namespace Validator

/-- `start.FirstFails value past rules failed new`: of some rules for a view, `failed` is the first
that fails, decided by the rules of `start`. -/
inductive FirstFails (start : Validator) (value : View) :
    List Note → List Rule → Option Rule → List Note → Prop where
  | done {past : List Note} : FirstFails start value past [] none []
  | pass {past first rest : List Note} {r : Rule} {rs : List Rule} {failed : Option Rule} :
      RuleTable.Decides start start.rules past value r.name r.param true first →
      FirstFails start value (past ++ first) rs failed rest →
      FirstFails start value past (r :: rs) failed (first ++ rest)
  | fail {past new : List Note} {r : Rule} {rs : List Rule} :
      RuleTable.Decides start start.rules past value r.name r.param false new →
      FirstFails start value past (r :: rs) (some r) new

/-- `start.Reports past fields failures new`: checked one after the other when `past` has happened
since `start`, some fields have these failures, with messages from the catalog of `start`. -/
inductive Reports (start : Validator) :
    List Note → List Field → List Failure → List Note → Prop where
  | nil {past : List Note} : Reports start past [] [] []
  | pass {past first rest : List Note} {f : Field} {fs : List Field} {failures : List Failure} :
      start.FirstFails f.value.view past (RuleLine.rules f.line) none first →
      Reports start (past ++ first) fs failures rest →
      Reports start past (f :: fs) failures (first ++ rest)
  | fail {past first rest : List Note} {f : Field} {fs : List Field} {failures : List Failure}
      {r : Rule} :
      start.FirstFails f.value.view past (RuleLine.rules f.line) (some r) first →
      Reports start (past ++ (first ++ [.fieldFailed f.name r.name])) fs failures rest →
      Reports start past (f :: fs)
        ({ field := f.name
           label := f.displayLabel
           rule := r.name
           param := r.param
           value := f.value.snapshot
           message := start.messages.render r.name f.displayLabel r.param } :: failures)
        (first ++ [.fieldFailed f.name r.name] ++ rest)

end Validator

/-! ## Runs end only as described -/

namespace Run

/-- The questions that `ask` answers are decided by all rules registered so far. -/
def Sound (ask : View → String → String → Run Bool) : Prop :=
  ∀ value rule param start past e, ask value rule param (start.after past) = some e →
    RuleTable.Decides start (start.after past).rules past value rule param e.answer e.trace ∧
      e.validator = start.after (past ++ e.trace)

variable {ask : View → String → String → Run Bool}

theorem answers_of_run (hask : Sound ask) (s : Script) {start : Validator} {past : List Note}
    {e : Ending Bool} (h : s.run ask (start.after past) = some e) :
    Script.Answers start past s e.answer e.trace ∧ e.validator = start.after (past ++ e.trace) := by
  induction s generalizing past e with
  | answer passes =>
    cases h
    exact ⟨.answer, by simp⟩
  | register name body next _ ih =>
    obtain ⟨d, d', hd, hd', rfl⟩ := bind_eq_some_iff.1 h
    cases hd
    -- for the rest of the script, what was just registered belongs to the past
    have hnext : next.run ask (start.after (past ++ [.registered name ⟨.script, body⟩])) =
        some d' := by
      rw [Validator.after_snoc]
      exact hd'
    obtain ⟨hs, hv⟩ := ih hnext
    exact ⟨.register hs, by rw [hv]; simp⟩
  | setMessage rule template next ih =>
    obtain ⟨d, d', hd, hd', rfl⟩ := bind_eq_some_iff.1 h
    cases hd
    have hnext : next.run ask (start.after (past ++ [.messageSet rule template])) = some d' := by
      rw [Validator.after_snoc]
      exact hd'
    obtain ⟨hs, hv⟩ := ih hnext
    exact ⟨.setMessage hs, by rw [hv]; simp⟩
  | ask value rule param next ih =>
    obtain ⟨d, d', hd, hd', rfl⟩ := bind_eq_some_iff.1 h
    obtain ⟨hdecides, hv⟩ := hask value rule param start past d hd
    rw [hv] at hd'
    obtain ⟨hs, hv'⟩ := ih d.answer hd'
    exact ⟨.ask hdecides hs, by rw [hv', List.append_assoc]⟩

theorem decides_of_evaluate (hask : Sound ask) {t : RuleTable} {value : View}
    {rule param : String} {start : Validator} {past : List Note} {e : Ending Bool}
    (h : t.evaluate ask value rule param (start.after past) = some e) :
    RuleTable.Decides start t past value rule param e.answer e.trace ∧
      e.validator = start.after (past ++ e.trace) := by
  unfold RuleTable.evaluate at h
  cases hc : t.custom.get? rule with
  | some custom =>
    simp only [hc] at h
    obtain ⟨d, hd, rfl⟩ := CustomRule.call_eq_some_iff.1 h
    obtain ⟨hs, hv⟩ := answers_of_run hask _ hd
    refine ⟨.custom hc hs, ?_⟩
    rw [← List.append_assoc, Validator.after_snoc, ← hv]
    rfl
  | none =>
    simp only [hc] at h
    cases hb : Builtin.ofName? rule with
    | some b =>
      simp only [hb] at h
      cases h
      exact ⟨.builtin hc hb, by simp⟩
    | none =>
      simp only [hb] at h
      cases h
      exact ⟨.unknown hc hb, (start.after_snoc past (.unknownRule rule)).symm⟩

/-- Whatever the depth, questions are answered by all rules registered so far. -/
theorem sound_evaluate (depth : Nat) : Sound (Run.evaluate depth) := by
  induction depth with
  | zero =>
    intro value rule param start past e h
    cases h
  | succ depth ih => exact fun value rule param start past e h => decides_of_evaluate ih h

theorem firstFails_of_firstFailing (hask : Sound ask) {start : Validator} {value : View}
    (rules : List Rule) {past : List Note} {e : Ending (Option Rule)}
    (h : start.rules.firstFailing ask value rules (start.after past) = some e) :
    start.FirstFails value past rules e.answer e.trace ∧
      e.validator = start.after (past ++ e.trace) := by
  induction rules generalizing past e with
  | nil =>
    cases h
    exact ⟨.done, by simp⟩
  | cons r rs ih =>
    obtain ⟨d, d', hd, hd', rfl⟩ := bind_eq_some_iff.1 h
    obtain ⟨hdecides, hv⟩ := decides_of_evaluate hask hd
    cases hp : d.answer with
    | true =>
      rw [hp] at hdecides
      simp only [hp, if_true, hv] at hd'
      obtain ⟨hrest, hv'⟩ := ih hd'
      exact ⟨.pass hdecides hrest, by rw [hv', List.append_assoc]⟩
    | false =>
      rw [hp] at hdecides
      simp only [hp] at hd'
      cases hd'
      exact ⟨by simpa using .fail hdecides, by simpa using hv⟩

/-- A field that was checked either passed or failed at its first failing rule. -/
theorem firstFails_of_checkField (hask : Sound ask) {start : Validator} {f : Field}
    {past : List Note} {e : Ending (Option Failure)}
    (h : start.checkField ask f (start.after past) = some e) :
    e.validator = start.after (past ++ e.trace) ∧
      ((e.answer = none ∧
          start.FirstFails f.value.view past (RuleLine.rules f.line) none e.trace) ∨
        ∃ r new, e.answer = some (.render start.messages f.name f.displayLabel r.name r.param
              f.value.snapshot) ∧
          e.trace = new ++ [.fieldFailed f.name r.name] ∧
          start.FirstFails f.value.view past (RuleLine.rules f.line) (some r) new) := by
  obtain ⟨d, d', hd, hd', rfl⟩ := bind_eq_some_iff.1 h
  obtain ⟨hfirst, hv⟩ := firstFails_of_firstFailing hask _ hd
  cases hr : d.answer with
  | none =>
    rw [hr] at hfirst
    simp only [hr] at hd'
    cases hd'
    exact ⟨by simpa using hv, .inl ⟨rfl, by simpa using hfirst⟩⟩
  | some r =>
    rw [hr] at hfirst
    simp only [hr] at hd'
    cases hd'
    refine ⟨?_, .inr ⟨r, d.trace, rfl, by simp, hfirst⟩⟩
    show d.validator = start.after (past ++ (d.trace ++ [.fieldFailed f.name r.name]))
    rw [← List.append_assoc, Validator.after_snoc, ← hv]
    rfl

theorem reports_of_checkFields (hask : Sound ask) {start : Validator} (fields : List Field)
    {past : List Note} {e : Ending (List Failure)}
    (h : start.checkFields ask fields (start.after past) = some e) :
    start.Reports past fields e.answer e.trace ∧ e.validator = start.after (past ++ e.trace) := by
  induction fields generalizing past e with
  | nil =>
    cases h
    exact ⟨.nil, by simp⟩
  | cons f fs ih =>
    obtain ⟨d, d', hd, hd', rfl⟩ := bind_eq_some_iff.1 h
    obtain ⟨c, c', hc, hc', rfl⟩ := bind_eq_some_iff.1 hd'
    cases hc'
    obtain ⟨hv, hfield⟩ := firstFails_of_checkField hask hd
    rw [hv] at hc
    obtain ⟨hrest, hv'⟩ := ih hc
    refine ⟨?_, by simpa using hv'⟩
    obtain ⟨hnone, hfirst⟩ | ⟨r, new, hsome, htrace, hfirst⟩ := hfield
    · simpa [hnone] using .pass hfirst hrest
    · rw [htrace] at hrest ⊢
      have hreports := Validator.Reports.fail hfirst hrest
      simpa [hsome, Failure.render] using hreports

/-! ## What is described does happen -/

/-- A run that begins when `past` has happened since `start` answers `a`, and `new` happens
meanwhile, if only questions may go deep enough. -/
def Yields {α : Type} (r : Nat → Run α) (start : Validator) (past : List Note) (a : α)
    (new : List Note) : Prop :=
  ∃ least, ∀ depth, least ≤ depth →
    r depth (start.after past) = some ⟨a, start.after (past ++ new), new⟩

section Yields

variable {α β : Type} {start : Validator} {past first rest : List Note}

theorem yields_pure (a : α) : Yields (fun _ => Run.pure a) start past a [] :=
  ⟨0, fun _ _ => by simp⟩

theorem yields_register (name : String) (rule : CustomRule) :
    Yields (fun _ => Run.register name rule) start past () [.registered name rule] :=
  ⟨0, fun _ _ => by simp [Run.register, Validator.after_snoc, Validator.learn]⟩

theorem yields_setMessage (rule template : String) :
    Yields (fun _ => Run.setMessage rule template) start past () [.messageSet rule template] :=
  ⟨0, fun _ _ => by simp [Run.setMessage, Validator.after_snoc, Validator.learn]⟩

/-- A note that teaches the validator nothing may be left on the way to an answer. -/
theorem yields_note (n : Note) (hn : ∀ v : Validator, v.learn n = v) (a : α) :
    Yields (fun _ => (Run.note n).bind fun _ => Run.pure a) start past a [n] :=
  ⟨0, fun _ _ => by simp [Run.bind, Validator.after_snoc, hn]⟩

theorem Yields.bind {r : Nat → Run α} {next : Nat → α → Run β} {a : α} {b : β}
    (h : Yields r start past a first)
    (hnext : Yields (fun depth => next depth a) start (past ++ first) b rest) :
    Yields (fun depth => (r depth).bind (next depth)) start past b (first ++ rest) := by
  obtain ⟨least, h⟩ := h
  obtain ⟨least', hnext⟩ := hnext
  refine ⟨max least least', fun depth hdepth => ?_⟩
  have hbind := bind_of_some (h depth (by omega)) (hnext depth (by omega))
  rw [List.append_assoc] at hbind
  exact hbind

theorem Yields.map {r : Nat → Run α} {a : α} (h : Yields r start past a first) (f : α → β) :
    Yields (fun depth => (r depth).bind fun a => Run.pure (f a)) start past (f a) first := by
  rw [← List.append_nil first]
  exact h.bind (yields_pure _)

/-- Asking the validator goes one deeper than the verdict that it asks for. -/
theorem Yields.evaluate {value : View} {rule param : String} {passed : Bool}
    (h : Yields (fun depth => (start.after past).rules.evaluate (Run.evaluate depth) value rule
      param) start past passed first) :
    Yields (fun depth => Run.evaluate depth value rule param) start past passed first := by
  obtain ⟨least, h⟩ := h
  refine ⟨least + 1, fun depth hdepth => ?_⟩
  obtain ⟨depth, rfl⟩ : ∃ d, depth = d + 1 := ⟨depth - 1, by omega⟩
  exact h depth (by omega)

end Yields

end Run

mutual

theorem Script.Answers.yields {start : Validator} : ∀ {past new : List Note} {s : Script}
    {passes : Bool}, Script.Answers start past s passes new →
      Run.Yields (fun depth => s.run (Run.evaluate depth)) start past passes new
  | _, _, _, _, .answer => Run.yields_pure _
  | _, _, _, _, .register hnext => (Run.yields_register _ _).bind hnext.yields
  | _, _, _, _, .setMessage hnext => (Run.yields_setMessage _ _).bind hnext.yields
  | _, _, _, _, .ask hdecides hnext => hdecides.yields.evaluate.bind hnext.yields

theorem RuleTable.Decides.yields {start : Validator} : ∀ {t : RuleTable} {past new : List Note}
    {value : View} {rule param : String} {passed : Bool},
      RuleTable.Decides start t past value rule param passed new →
        Run.Yields (fun depth => t.evaluate (Run.evaluate depth) value rule param) start past
          passed new
  | _, _, _, _, _, _, _, .custom hc hs => by
    simp only [RuleTable.evaluate, hc]
    exact hs.yields.bind (Run.yields_note (.called _) (fun _ => rfl) _)
  | _, _, _, _, _, _, _, .builtin hc hb => by
    simp only [RuleTable.evaluate, hc, hb]
    exact Run.yields_pure _
  | _, _, _, _, _, _, _, .unknown hc hb => by
    simp only [RuleTable.evaluate, hc, hb]
    exact Run.yields_note (.unknownRule _) (fun _ => rfl) _

end

namespace Validator

variable {start : Validator}

theorem FirstFails.yields {value : View} {past new : List Note} {rules : List Rule}
    {failed : Option Rule} (h : start.FirstFails value past rules failed new) :
    Run.Yields (fun depth => start.rules.firstFailing (Run.evaluate depth) value rules) start past
      failed new := by
  induction h with
  | done => exact Run.yields_pure _
  | pass hdecides _ ih =>
    unfold RuleTable.firstFailing
    exact hdecides.yields.bind ih
  | @fail _ new _ _ hdecides =>
    unfold RuleTable.firstFailing
    rw [← List.append_nil new]
    exact hdecides.yields.bind (Run.yields_pure _)

theorem FirstFails.yields_none {f : Field} {past new : List Note}
    (h : start.FirstFails f.value.view past (RuleLine.rules f.line) none new) :
    Run.Yields (fun depth => start.checkField (Run.evaluate depth) f) start past none new := by
  unfold checkField
  rw [← List.append_nil new]
  exact h.yields.bind (Run.yields_pure _)

theorem FirstFails.yields_some {f : Field} {past new : List Note} {r : Rule}
    (h : start.FirstFails f.value.view past (RuleLine.rules f.line) (some r) new) :
    Run.Yields (fun depth => start.checkField (Run.evaluate depth) f) start past
      (some (.render start.messages f.name f.displayLabel r.name r.param f.value.snapshot))
      (new ++ [.fieldFailed f.name r.name]) := by
  unfold checkField
  exact h.yields.bind (Run.yields_note (.fieldFailed _ _) (fun _ => rfl) _)

theorem Reports.yields {past new : List Note} {fields : List Field} {failures : List Failure}
    (h : start.Reports past fields failures new) :
    Run.Yields (fun depth => start.checkFields (Run.evaluate depth) fields) start past failures
      new := by
  induction h with
  | nil => exact Run.yields_pure _
  | pass hfirst _ ih =>
    unfold checkFields
    exact hfirst.yields_none.bind (ih.map _)
  | fail hfirst _ ih =>
    unfold checkFields
    exact hfirst.yields_some.bind (ih.map _)

end Validator

/-! ## Checks of records -/

/-- A check ends only as described: with the failures that `Validator.Reports` gives for the
fields of the record, in the validator with everything that happened. -/
theorem Run.reports_of_validate {depth : Nat} {v : Validator} {record : List Entry}
    {e : Ending (Except Report Unit)} (h : Run.validate depth record v = some e) :
    ∃ failures new, v.Reports [] (Entry.flattenAll record) failures new ∧
      e = ⟨Report.outcome ⟨failures⟩, v.after new, new ++ [.recordChecked failures.length]⟩ := by
  obtain ⟨d, hd, rfl⟩ := validate_eq_some_iff.1 h
  obtain ⟨hreports, hv⟩ := @reports_of_checkFields _ (sound_evaluate depth) v _ [] _ hd
  exact ⟨d.answer, d.trace, hreports, by rw [hv, List.nil_append]⟩

/-- What is described is what a check ends with, if only questions may go deep enough. -/
theorem Run.validate_of_reports {v : Validator} {record : List Entry} {failures : List Failure}
    {new : List Note} (h : v.Reports [] (Entry.flattenAll record) failures new) :
    ∃ least, ∀ depth, least ≤ depth → Run.validate depth record v =
      some ⟨Report.outcome ⟨failures⟩, v.after new, new ++ [.recordChecked failures.length]⟩ := by
  obtain ⟨least, hwalk⟩ := h.yields
  exact ⟨least, fun depth hdepth => validate_eq_some_iff.2 ⟨_, hwalk depth hdepth, rfl⟩⟩

/-- The messages of a report come from the catalog of the validator at the start. -/
theorem Validator.Reports.message_eq {start : Validator} {past new : List Note}
    {fields : List Field} {failures : List Failure}
    (h : start.Reports past fields failures new) :
    ∀ f ∈ failures, f.message = start.messages.render f.rule f.label f.param := by
  induction h with
  | nil => simp
  | pass _ _ ih => exact ih
  | fail _ _ ih =>
    intro g hg
    rcases List.mem_cons.1 hg with rfl | hg
    · rfl
    · exact ih g hg

namespace Run

/-- **Rules that talk to the validator do not disturb the check they run in.**  A check ends
exactly as `Validator.Reports` says: every rule of the walk is looked up in the rules of the
validator at the start, every question that a rule asks is decided by all rules registered before
it.  The messages are those of the catalog at the start.  What is left is the validator at the
start with everything that was registered and set, in order: under every name the rule that was
registered last, for every rule the template that was set last, and what was there at the start
where nothing was written.  The next check starts from there.  The depth of questions decides
whether a check ends, never how. -/
theorem validate_isolated (v : Validator) (record : List Entry) :
    (∀ past, (v.after past).IsAfter v past) ∧
    (∀ failures new, v.Reports [] (Entry.flattenAll record) failures new →
      ∃ least, ∀ depth, least ≤ depth → Run.validate depth record v =
        some ⟨Report.outcome ⟨failures⟩, v.after new, new ++ [.recordChecked failures.length]⟩) ∧
    (∀ depth e, Run.validate depth record v = some e →
      (∃ failures new, v.Reports [] (Entry.flattenAll record) failures new ∧
        e.answer = Report.outcome ⟨failures⟩ ∧ e.trace = new ++ [.recordChecked failures.length]) ∧
      (∀ report, e.answer = .error report →
        ∀ f ∈ report.failures, f.message = v.messages.render f.rule f.label f.param) ∧
      (∀ name, e.validator.rules.custom.get? name =
        ((e.trace.filterMap (Note.rule? name)).getLast?).or (v.rules.custom.get? name)) ∧
      (∀ rule, e.validator.messages.get? rule =
        ((e.trace.filterMap (Note.template? rule)).getLast?).or (v.messages.get? rule)) ∧
      e.validator.messages.fallback = v.messages.fallback ∧
      e.validator = v.after e.trace ∧
      ∀ next, ((Run.validate depth record).bind fun _ => Run.validate depth next) v =
        (Run.validate depth next (v.after e.trace)).map fun d =>
          { d with trace := e.trace ++ d.trace }) := by
  refine ⟨v.isAfter_after, fun failures new h => validate_of_reports h, fun depth e h => ?_⟩
  obtain ⟨failures, new, hreports, he⟩ := reports_of_validate h
  have hv : e.validator = v.after e.trace := by
    rw [he, Validator.after_snoc]
    rfl
  have hafter : e.validator.IsAfter v e.trace := by
    rw [hv]
    exact v.isAfter_after e.trace
  refine ⟨⟨failures, new, hreports, by rw [he], by rw [he]⟩, ?_, hafter.rule, hafter.template,
    hafter.fallback, hv, ?_⟩
  · intro report hreport f hf
    subst he
    simp only [Report.outcome_mk] at hreport
    split at hreport
    · cases hreport
    · cases hreport
      exact hreports.message_eq f hf
  · intro next
    rw [← hv]
    cases hnext : Run.validate depth next e.validator <;> simp [Run.bind, h, hnext]

/-- A validator whose rule `probe` replaces the rule `seen`, which nothing passes, by one that
everything passes, changes its message, and asks for its verdict. -/
def probing : Validator where
  rules := (RuleTable.empty.install "seen" (.ofTest fun _ _ => false)).install "probe"
    ⟨.program, fun value param =>
      .register "seen" (fun _ _ => .answer true) <|
        .setMessage "seen" "{field} is new" <|
          .ask value "seen" param .answer⟩
  messages := .english

/-- The rule `probe` is answered by the new rule `seen`, and the next field fails at the old one,
with the old message.  What is left has the new rule and the new message, and of everything else
what was there. -/
theorem validate_isolated_probing :
    ∃ depth e, Run.validate depth [.field { name := "a", line := "probe", value := .int 1 },
        .field { name := "b", line := "seen", value := .int 2 }] probing = some e ∧
      e.answer = .error ⟨[⟨"b", "b", "seen", "", .number (.int 2), "b failed validation"⟩]⟩ ∧
      e.validator.rules.custom.get? "seen" = some ⟨.script, fun _ _ => .answer true⟩ ∧
      e.validator.rules.custom.get? "probe" = probing.rules.custom.get? "probe" ∧
      e.validator.messages.get? "seen" = some "{field} is new" ∧
      e.validator.messages.get? "probe" = none ∧
      e.validator = probing.after
        [.registered "seen" ⟨.script, fun _ _ => .answer true⟩,
          .messageSet "seen" "{field} is new"] := by
  have hprobe : RuleTable.Decides probing probing.rules [] (Value.int 1).view "probe" "" true _ :=
    .custom rfl (.register (.setMessage (.ask (.custom rfl .answer) .answer)))
  have hseen (past : List Note) :
      RuleTable.Decides probing probing.rules past (Value.int 2).view "seen" "" false _ :=
    .custom rfl .answer
  have hreports : probing.Reports []
      [{ name := "a", line := "probe", value := .int 1 },
        { name := "b", line := "seen", value := .int 2 }] _ _ :=
    .pass (.pass hprobe .done) (.fail (.fail (hseen _)) .nil)
  obtain ⟨-, hends, hleft⟩ := validate_isolated probing
    [.field { name := "a", line := "probe", value := .int 1 },
      .field { name := "b", line := "seen", value := .int 2 }]
  obtain ⟨least, hleast⟩ := hends _ _ hreports
  have hrun := hleast least (Nat.le_refl _)
  obtain ⟨-, -, hrule, htemplate, -, hafter, -⟩ := hleft _ _ hrun
  exact ⟨least, _, hrun, rfl, hrule "seen", hrule "probe", htemplate "seen", htemplate "probe",
    hafter⟩

end Run

end RecordCheck
