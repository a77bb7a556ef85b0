import RecordCheck.Builder
import RecordCheck.Proofs.Registration

/-!
# Templates of built-in rules

The rules that are listed, the rules that are dispatched and the rules for which a locale has a
template are the same.  A rule that nobody knows never fails, so without custom rules every failure
is at a built-in rule; and overriding templates takes none away, so the rule has a template of its
own.  The fallback template is then never used.

* `Builtin.isSome_ofName?_iff`, `Catalog.isSome_get?_ofLocale_iff` — the four tables of names.
* `Catalog.CoversBuiltins` — every built-in rule has a template of its own; so it is in the catalog of
  a locale, and overriding templates keeps it so.
* `Validator.exists_name_of_mem_failures` — without custom rules a failure is at a built-in rule.
* `Run.validate_setFallback` — another fallback template makes no difference.
* `Run.validate_from_own_templates` — this for validators that were made from settings and had
  messages set.
-/

namespace RecordCheck

/-! ## Four tables of names -/

/-- A name is dispatched exactly when it is listed. -/
theorem Builtin.isSome_ofName?_iff {name : String} :
    (ofName? name).isSome ↔ name ∈ all.map Builtin.name := by
  constructor
  · intro h
    obtain ⟨b, hb⟩ := Option.isSome_iff_exists.1 h
    exact List.mem_map.2 ⟨b, mem_all b, name_of_ofName? hb⟩
  · intro h
    obtain ⟨b, -, rfl⟩ := List.mem_map.1 h
    rw [ofName?_name]
    rfl

namespace Catalog

/-- The catalog of a locale has templates for the names that are dispatched. -/
theorem isSome_get?_ofLocale_iff (l : Locale) {name : String} :
    ((ofLocale l).get? name).isSome ↔ (Builtin.ofName? name).isSome := by
  rw [get?_ofLocale, Option.isSome_map]

/-! ## Catalogs with a template for every built-in rule -/

/-- Every built-in rule has a template of its own. -/
def CoversBuiltins (c : Catalog) : Prop :=
  ∀ b : Builtin, (c.get? b.name).isSome

theorem coversBuiltins_ofLocale (l : Locale) : (ofLocale l).CoversBuiltins := by
  intro b
  rw [isSome_get?_ofLocale_iff, Builtin.ofName?_name]
  rfl

namespace CoversBuiltins

variable {c : Catalog} (h : c.CoversBuiltins)

include h

theorem set (rule template : String) : (c.set rule template).CoversBuiltins := by
  intro b
  rw [get?_set]
  split
  · rfl
  · exact h b

theorem setFallback (template : String) : (c.setFallback template).CoversBuiltins :=
  h

/-- However many templates are overridden, every built-in rule has one. -/
theorem extend (overrides : List (String × String)) : (c.extend overrides).CoversBuiltins := by
  induction overrides generalizing c with
  | nil => exact h
  | cons o os ih =>
    rw [extend_cons]
    exact ih (h.set o.1 o.2)

/-- The message for a built-in rule does not come from the fallback template. -/
theorem render_setFallback (template : String) (b : Builtin) (label param : String) :
    (c.setFallback template).render b.name label param = c.render b.name label param := by
  obtain ⟨own, hown⟩ := Option.isSome_iff_exists.1 (h b)
  have hset : (c.setFallback template).get? b.name = some own := hown
  rw [render_of_get? hown, render_of_get? hset]

end CoversBuiltins

theorem coversBuiltins_catalog (s : Settings) : s.catalog.CoversBuiltins := by
  have hlocale := coversBuiltins_ofLocale s.locale
  rw [Settings.catalog]
  cases s.fallback with
  | none => exact hlocale.extend _
  | some template => exact (hlocale.setFallback template).extend _

theorem extend_setFallback (c : Catalog) (template : String) (overrides : List (String × String)) :
    (c.setFallback template).extend overrides = (c.extend overrides).setFallback template :=
  rfl

end Catalog

/-- Settings with another fallback template make the same catalog with another fallback template. -/
theorem Settings.catalog_withFallback (s : Settings) (template : String) :
    { s with fallback := some template }.catalog = s.catalog.setFallback template := by
  rw [catalog, catalog]
  cases s.fallback <;> rfl

/-! ## Failures without custom rules -/

/-- A rule that nobody knows does not fail. -/
theorem RuleTable.exists_name_of_not_passes {value : View} {rule param : String}
    (h : empty.passes value rule param = false) : ∃ b : Builtin, b.name = rule := by
  cases hb : Builtin.ofName? rule with
  | some b => exact ⟨b, Builtin.name_of_ofName? hb⟩
  | none =>
    rw [passes_of_unknown rfl hb] at h
    cases h

namespace Validator

variable {c : Catalog} {record : List Entry}

theorem exists_name_of_mem_failures {f : Failure} (h : f ∈ failures ⟨.empty, c⟩ record) :
    ∃ b : Builtin, b.name = f.rule := by
  obtain ⟨field, -, hfield⟩ := List.mem_filterMap.1 h
  obtain ⟨r, hr, rfl⟩ := Option.map_eq_some_iff.1 hfield
  have hfails := List.find?_some hr
  exact RuleTable.exists_name_of_not_passes (by simpa using hfails)

/-- The messages of failures come from the templates of their own rules. -/
theorem exists_template_of_mem_failures (hc : c.CoversBuiltins) {f : Failure}
    (h : f ∈ failures ⟨.empty, c⟩ record) :
    ∃ template, c.get? f.rule = some template ∧
      f.message = String.ofList
        (Catalog.fill template.toList f.rule.toList f.label.toList f.param.toList) := by
  obtain ⟨b, hb⟩ := exists_name_of_mem_failures h
  obtain ⟨template, ht⟩ := Option.isSome_iff_exists.1 (hc b)
  rw [hb] at ht
  refine ⟨template, ht, ?_⟩
  rw [message_of_mem_failures h, Catalog.render_of_get? ht]

theorem failures_setFallback (hc : c.CoversBuiltins) (template : String) :
    failures ⟨.empty, c.setFallback template⟩ record = failures ⟨.empty, c⟩ record := by
  rw [failures_of_messages .empty c (c.setFallback template)]
  refine (List.map_congr_left fun f hf => ?_).trans (List.map_id _)
  obtain ⟨b, hb⟩ := exists_name_of_mem_failures hf
  have hmessage : (c.setFallback template).render f.rule f.label f.param = f.message := by
    rw [message_of_mem_failures hf, ← hb, hc.render_setFallback]
  rw [Failure.localize, hmessage, id]

end Validator

/-! ## Records -/

namespace Run

theorem validate_setFallback {c : Catalog} (hc : c.CoversBuiltins) (template : String)
    (depth : Nat) (record : List Entry) :
    Run.validate depth record ⟨.empty, c.setFallback template⟩ =
      (Run.validate depth record ⟨.empty, c⟩).map fun e =>
        ⟨e.answer, ⟨.empty, c.setFallback template⟩, e.trace⟩ := by
  have hnotes : Validator.fieldNotes ⟨.empty, c.setFallback template⟩ =
      Validator.fieldNotes ⟨.empty, c⟩ :=
    funext (Validator.fieldNotes_of_messages .empty c (c.setFallback template))
  rw [validate_of_onlyTests RuleTable.onlyTests_empty,
    validate_of_onlyTests RuleTable.onlyTests_empty, hnotes, Validator.failures_setFallback hc,
    Option.map_some]

/-- Sets message templates one after the other. -/
def setMessages : List (String × String) → Run Unit
  | [] => Run.pure ()
  | o :: os => (Run.setMessage o.1 o.2).bind fun _ => setMessages os

theorem setMessages_apply (overrides : List (String × String)) (v : Validator) :
    setMessages overrides v =
      some ⟨(), ⟨v.rules, v.messages.extend overrides⟩,
        overrides.map fun o => .messageSet o.1 o.2⟩ := by
  induction overrides generalizing v with
  | nil => rfl
  | cons o os ih =>
    rw [setMessages, setMessage_bind o.1 o.2 _ (ih _), List.map_cons]
    rfl

/-- **Without custom rules the fallback template is never used.**  The names that are dispatched as
built-in rules, the names that are listed, and the names with an English and with a Chinese template
are the same.  Take a validator that was made from any settings and had any messages set, without
custom rules.  Its check of a record ends; every failure is at a rule that is listed, and its message
is made from the template that the catalog has for this rule.  Had the validator been made with
another fallback template, or were the fallback template replaced afterwards, it would have been the
same validator otherwise, and the check would have come to the same outcome with the same trace. -/
theorem validate_from_own_templates (s : Settings) (overrides : List (String × String))
    (fallback : String) (depth : Nat) (record : List Entry) :
    (∀ name : String,
      ((Builtin.ofName? name).isSome ↔ name ∈ Builtin.all.map Builtin.name) ∧
      (name ∈ Builtin.all.map Builtin.name ↔ (Catalog.english.get? name).isSome) ∧
      ((Catalog.english.get? name).isSome ↔ (Catalog.chinese.get? name).isSome)) ∧
    ∃ v set outcome trace,
      setMessages overrides (Validator.ofSettings s) = some ⟨(), v, set⟩ ∧
      Run.validate depth record v = some ⟨outcome, v, trace⟩ ∧
      (∀ report, outcome = .error report → ∀ f ∈ report.failures,
        f.rule ∈ Builtin.all.map Builtin.name ∧
        ∃ template, v.messages.get? f.rule = some template ∧
          f.message = String.ofList
            (Catalog.fill template.toList f.rule.toList f.label.toList f.param.toList)) ∧
      setMessages overrides (Validator.ofSettings { s with fallback := some fallback }) =
        some ⟨(), ⟨v.rules, v.messages.setFallback fallback⟩, set⟩ ∧
      Run.validate depth record ⟨v.rules, v.messages.setFallback fallback⟩ =
        some ⟨outcome, ⟨v.rules, v.messages.setFallback fallback⟩, trace⟩ := by
  refine ⟨fun name => ⟨Builtin.isSome_ofName?_iff, ?_, ?_⟩, ?_⟩
  · rw [Catalog.english, Catalog.isSome_get?_ofLocale_iff, Builtin.isSome_ofName?_iff]
  · rw [Catalog.english, Catalog.chinese, Catalog.isSome_get?_ofLocale_iff,
      Catalog.isSome_get?_ofLocale_iff]
  · have hcovers : (s.catalog.extend overrides).CoversBuiltins :=
      (Catalog.coversBuiltins_catalog s).extend overrides
    have hrun := validate_of_onlyTests (v := ⟨.empty, s.catalog.extend overrides⟩)
      RuleTable.onlyTests_empty depth record
    have hother := validate_setFallback hcovers fallback depth record
    rw [hrun, Option.map_some] at hother
    refine ⟨⟨.empty, s.catalog.extend overrides⟩, _, _, _, setMessages_apply overrides _, hrun,
      ?_, ?_, hother⟩
    · intro report hreport f hf
      obtain ⟨-, rfl⟩ := Report.outcome_eq_error_iff.1 hreport
      obtain ⟨b, hb⟩ := Validator.exists_name_of_mem_failures hf
      refine ⟨?_, Validator.exists_template_of_mem_failures hcovers hf⟩
      rw [← hb]
      exact List.mem_map_of_mem (Builtin.mem_all b)
    · rw [setMessages_apply, Validator.ofSettings, Settings.catalog_withFallback,
        Catalog.extend_setFallback]

/-- A record with a name that is too short, and a blank code under a rule that nobody knows. -/
def shortName : List Entry :=
  [.field { name := "name", line := "min=3,required", value := .text "ab" },
    .embedded [.field { name := "code", line := "new,required", value := .text " " }]]

/-- Chinese settings with a fallback template, and the message for `min` set twice. -/
theorem validate_from_own_templates_shortName :
    ∃ v set report trace,
      setMessages [("min", "?"), ("min", "{field} < {param}")]
        (Validator.ofSettings ⟨.chinese, some "invalid", .empty⟩) = some ⟨(), v, set⟩ ∧
      Run.validate 0 shortName v = some ⟨.error report, v, trace⟩ ∧
      report.messages = ["name < 3", "code不能为空"] ∧
      (∀ f ∈ report.failures, f.rule ∈ Builtin.all.map Builtin.name) ∧
      Run.validate 0 shortName ⟨v.rules, v.messages.setFallback "{field}!"⟩ =
        some ⟨.error report, ⟨v.rules, v.messages.setFallback "{field}!"⟩, trace⟩ := by
  obtain ⟨-, v, set, outcome, trace, hset, hrun, hfailures, -, hother⟩ :=
    validate_from_own_templates ⟨.chinese, some "invalid", .empty⟩
      [("min", "?"), ("min", "{field} < {param}")] "{field}!" 0 shortName
  have houtcome : outcome = .error
      ⟨[⟨"name", "name", "min", "3", .text "ab", "name < 3"⟩,
        ⟨"code", "code", "required", "", .text " ", "code不能为空"⟩]⟩ := by
    rw [setMessages_apply] at hset
    cases hset
    rw [validate_of_onlyTests RuleTable.onlyTests_empty] at hrun
    cases hrun
    rfl
  subst houtcome
  exact ⟨v, set, _, trace, hset, hrun, rfl, fun f hf => (hfailures _ rfl f hf).1, hother⟩

end Run

end RecordCheck
