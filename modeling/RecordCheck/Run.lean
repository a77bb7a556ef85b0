import RecordCheck.Catalog
import RecordCheck.Script

/-!
# Runs of a validator

A validator holds a rule table and a message catalog.  Everything that may run custom rules is a
`Run`: it starts from a validator and ends, with an answer, in a validator that may have learnt
new rules and messages, and it leaves a trace of notes in the order in which things happened.

* `Note` — what a trace tells: the calls of custom rules and the events of the validator.
* `Run` — a run; it has no outcome when rules ask one another too deeply.
* `RuleTable.evaluate` — the verdict of a rule: the custom rule of that name, else the built-in
  rule, else the rule is unknown and counts as satisfied (`RuleTable.evaluate_of_custom`,
  `RuleTable.evaluate_of_builtin`).
* `Run.evaluate` — the verdict of a rule as the validator stands at that moment.  Rules may ask one
  another without end, so this takes a bound on the depth of questions.
* `Run.bind_assoc`, `Run.bind_eq_some_iff` — runs one after another, and what it takes for them
  to end.
-/

namespace RecordCheck

/-- A validator: the rules that were registered and the messages that were set. -/
structure Validator where
  rules : RuleTable
  messages : Catalog

instance : Inhabited Validator := ⟨⟨.empty, .english⟩⟩

/-- One run of a custom rule. -/
structure Call where
  name : String
  origin : Origin
  value : View
  param : String
  passed : Bool
  deriving DecidableEq, Repr

/-- An entry of a trace. -/
inductive Note where
  /-- A custom rule came to its verdict. -/
  | called (call : Call)
  /-- A rule that nobody knows was asked for. -/
  | unknownRule (rule : String)
  /-- A field failed at a rule. -/
  | fieldFailed (field rule : String)
  /-- A record was checked, with this many failures. -/
  | recordChecked (failures : Nat)
  /-- A custom rule was registered. -/
  | registered (name : String) (rule : CustomRule)
  /-- The message template of a rule was set. -/
  | messageSet (rule template : String)
  /-- A payload of this kind was rejected because it is not an object. -/
  | payloadRejected (kind : String)

/-- What a run ends with. -/
structure Ending (α : Type) where
  answer : α
  validator : Validator
  trace : List Note

/-- A computation that starts from a validator. -/
abbrev Run (α : Type) := Validator → Option (Ending α)

namespace Run

variable {α β : Type}

/-- The run that only answers. -/
def pure (a : α) : Run α :=
  fun v => some ⟨a, v, []⟩

/-- One run after another. -/
def bind (r : Run α) (next : α → Run β) : Run β :=
  fun v =>
    match r v with
    | none => none
    | some e =>
      match next e.answer e.validator with
      | none => none
      | some f => some ⟨f.answer, f.validator, e.trace ++ f.trace⟩

/-- The run that leaves a note. -/
def note (n : Note) : Run Unit :=
  fun v => some ⟨(), v, [n]⟩

/-- The run that answers with the validator as it stands. -/
def current : Run Validator :=
  fun v => some ⟨v, v, []⟩

/-! ## Registration -/

/-- Registers a custom rule. -/
def register (name : String) (rule : CustomRule) : Run Unit :=
  fun v => some ⟨(), { v with rules := v.rules.install name rule }, [.registered name rule]⟩

/-- Sets the message template of a rule. -/
def setMessage (rule template : String) : Run Unit :=
  fun v =>
    some ⟨(), { v with messages := v.messages.set rule template }, [.messageSet rule template]⟩

/-! ## One run after another -/

@[simp] theorem pure_apply (a : α) (v : Validator) : pure a v = some ⟨a, v, []⟩ := rfl

/-- Runs that only answer are the same when their answers are. -/
theorem pure_inj {a b : α} : (pure a : Run α) = pure b ↔ a = b := by
  constructor
  · intro h
    have hsome : some (Ending.mk a default []) = some (Ending.mk b default []) := congrFun h default
    exact congrArg Ending.answer (Option.some.inj hsome)
  · rintro rfl
    rfl

@[simp] theorem note_apply (n : Note) (v : Validator) : note n v = some ⟨(), v, [n]⟩ := rfl

@[simp] theorem current_bind (next : Validator → Run β) (v : Validator) :
    current.bind next v = next v v := by
  cases h : next v v <;> simp [bind, current, h]

/-- Two runs end exactly when the first ends and the second ends from where the first left off. -/
theorem bind_eq_some_iff {r : Run α} {next : α → Run β} {v : Validator} {g : Ending β} :
    r.bind next v = some g ↔ ∃ e f, r v = some e ∧ next e.answer e.validator = some f ∧
      g = ⟨f.answer, f.validator, e.trace ++ f.trace⟩ := by
  unfold bind
  cases hr : r v with
  | none => simp
  | some e =>
    cases hn : next e.answer e.validator with
    | none => simp [hn]
    | some f => simp [hn, eq_comm]

/-- What a second run comes to, once the end of the first is known. -/
theorem bind_of_some {r : Run α} {next : α → Run β} {v : Validator} {e : Ending α}
    {f : Ending β} (h : r v = some e) (hn : next e.answer e.validator = some f) :
    r.bind next v = some ⟨f.answer, f.validator, e.trace ++ f.trace⟩ :=
  bind_eq_some_iff.2 ⟨e, f, h, hn, rfl⟩

@[simp] theorem pure_bind (a : α) (next : α → Run β) : (pure a).bind next = next a := by
  funext v
  cases h : next a v <;> simp [bind, h]

@[simp] theorem bind_pure (r : Run α) : r.bind pure = r := by
  funext v
  cases h : r v <;> simp [bind, h]

theorem bind_assoc {γ : Type} (r : Run α) (next : α → Run β) (last : β → Run γ) :
    (r.bind next).bind last = r.bind fun a => (next a).bind last := by
  funext v
  cases hr : r v with
  | none => simp [bind, hr]
  | some e =>
    cases hn : next e.answer e.validator with
    | none => simp [bind, hr, hn]
    | some f => cases hl : last f.answer f.validator <;> simp [bind, hr, hn, hl]

end Run

/-! ## Verdicts -/

/-- Runs a script; `ask` answers what it asks the validator. -/
def Script.run (ask : View → String → String → Run Bool) : Script → Run Bool
  | .answer passes => Run.pure passes
  | .register name body next =>
    (Run.register name ⟨.script, body⟩).bind fun _ => next.run ask
  | .setMessage rule template next =>
    (Run.setMessage rule template).bind fun _ => next.run ask
  | .ask value rule param next =>
    (ask value rule param).bind fun passed => (next passed).run ask

/-- Runs a custom rule under its name. -/
def CustomRule.call (ask : View → String → String → Run Bool) (rule : CustomRule)
    (name : String) (value : View) (param : String) : Run Bool :=
  ((rule.body value param).run ask).bind fun passed =>
    (Run.note (.called ⟨name, rule.origin, value, param, passed⟩)).bind fun _ => Run.pure passed

/-- A custom rule runs its script and leaves a note of its verdict at the end. -/
theorem CustomRule.call_eq_some_iff {ask : View → String → String → Run Bool}
    {rule : CustomRule} {name : String} {value : View} {param : String} {v : Validator}
    {e : Ending Bool} :
    rule.call ask name value param v = some e ↔
      ∃ d, (rule.body value param).run ask v = some d ∧
        e = ⟨d.answer, d.validator,
          d.trace ++ [.called ⟨name, rule.origin, value, param, d.answer⟩]⟩ := by
  unfold CustomRule.call
  rw [Run.bind_eq_some_iff]
  constructor
  · rintro ⟨d, d', hd, hd', rfl⟩
    cases hd'
    exact ⟨d, hd, rfl⟩
  · rintro ⟨d, hd, rfl⟩
    exact ⟨d, _, hd, rfl, rfl⟩

/-- The verdict of a rule on a view and a parameter.  A custom rule comes first and sees the view
as it is; then the built-in rules; a rule that nobody knows is satisfied. -/
def RuleTable.evaluate (t : RuleTable) (ask : View → String → String → Run Bool)
    (value : View) (rule param : String) : Run Bool :=
  match t.custom.get? rule with
  | some custom => custom.call ask rule value param
  | none =>
    match Builtin.ofName? rule with
    | some b => Run.pure (b.holds value param.toList)
    | none => (Run.note (.unknownRule rule)).bind fun _ => Run.pure true

namespace RuleTable

variable {t : RuleTable} {rule : String} (ask : View → String → String → Run Bool)

/-- A custom rule sees the view as it is, whatever else has its name. -/
theorem evaluate_of_custom {custom : CustomRule} (h : t.custom.get? rule = some custom)
    (value : View) (param : String) :
    t.evaluate ask value rule param = custom.call ask rule value param := by
  simp only [evaluate, h]

/-- A built-in rule only answers. -/
theorem evaluate_of_builtin {b : Builtin} (h : t.custom.get? rule = none)
    (hb : Builtin.ofName? rule = some b) (value : View) (param : String) :
    t.evaluate ask value rule param = Run.pure (b.holds value param.toList) := by
  simp only [evaluate, h, hb]

end RuleTable

/-! ## Asking the validator -/

/-- The verdict of a rule on a view and a parameter as the validator stands, outside any record.
A rule that asks for a verdict may be asked for in turn; when this goes deeper than `depth`, there
is no outcome. -/
def Run.evaluate : Nat → View → String → String → Run Bool
  | 0, _, _, _ => fun _ => none
  | depth + 1, value, rule, param => fun v =>
    v.rules.evaluate (Run.evaluate depth) value rule param v

namespace RuleTable

/-- Does the name stand for a custom or a built-in rule? -/
def isKnown (t : RuleTable) (name : String) : Bool :=
  t.hasCustom name || (Builtin.ofName? name).isSome

end RuleTable

end RecordCheck
