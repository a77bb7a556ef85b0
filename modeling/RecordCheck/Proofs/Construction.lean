import RecordCheck.Builder

/-!
# What the steps of a construction come to

A validator is described by a list of steps.  Each step sets one thing, and of the steps that set
the same thing the last one counts; a step that replaces all settings makes the earlier ones
forgotten, except for the rules.

* `Builder.Setting`, `Builder.Step.sets` — what a step sets.
* `Builder.Since` — the settings that were replaced last, and the steps after that.
* `Builder.locale_foldl_apply`, `Builder.get?_messages_foldl_apply`, `Builder.fallback_foldl_apply`,
  `Builder.get?_rules_foldl_apply` — this for each thing that a step can set.
* `Builder.apply_comm` — steps that set different things may come in either order.
* `Run.registerAll_of_perm` — rules may be registered in any order.
* `Builder.run_last_writes` — what a validator that was built has.
-/

namespace RecordCheck

namespace Builder

/-! ## What a step sets -/

/-- A thing that a step can set. -/
inductive Setting where
  /-- All settings at once. -/
  | all
  | locale
  | template (rule : String)
  | fallback
  | rule (name : String)
  deriving DecidableEq, Repr

namespace Step

/-- The thing that a step sets. -/
def sets : Step → Setting
  | .settings _ => .all
  | .locale _ => .locale
  | .message name _ => .template name
  | .fallback _ => .fallback
  | .rule name _ => .rule name

/-- The locale that a step chooses. -/
def locale? : Step → Option Locale
  | .locale l => some l
  | _ => none

/-- The template that a step sets for a rule. -/
def template? (rule : String) : Step → Option String
  | .message other template => if other = rule then some template else none
  | _ => none

/-- The fallback template that a step sets. -/
def fallback? : Step → Option String
  | .fallback template => some template
  | _ => none

/-- The rule that a step registers under a name. -/
def rule? (name : String) : Step → Option CustomRule
  | .rule other custom => if other = name then some custom else none
  | _ => none

end Step

/-! ## Since all settings were replaced -/

/-- `Since steps s after`: the settings `s` were the last ones that replaced all, and the steps
`after` followed; when settings were never replaced, all steps follow the default ones. -/
inductive Since : List Step → Settings → List Step → Prop where
  | start {steps : List Step} :
      (∀ step ∈ steps, step.sets ≠ .all) → Since steps .default steps
  | replaced (before : List Step) {after : List Step} {s : Settings} :
      (∀ step ∈ after, step.sets ≠ .all) → Since (before ++ .settings s :: after) s after

theorem exists_since (steps : List Step) : ∃ s after, Since steps s after := by
  induction steps with
  | nil => exact ⟨_, _, .start fun step h => absurd h List.not_mem_nil⟩
  | cons step steps ih =>
    obtain ⟨s, after, h⟩ := ih
    cases h with
    | replaced before hafter => exact ⟨s, after, .replaced (step :: before) hafter⟩
    | start hsteps =>
      by_cases hstep : step.sets = .all
      · cases step with
        | settings s => exact ⟨s, steps, .replaced [] hsteps⟩
        | locale => cases hstep
        | message => cases hstep
        | fallback => cases hstep
        | rule => cases hstep
      · refine ⟨_, _, .start ?_⟩
        intro other hother
        rcases List.mem_cons.1 hother with rfl | hother
        · exact hstep
        · exact hsteps other hother

theorem Since.sets_ne_all {steps after : List Step} {s : Settings} (h : Since steps s after) :
    ∀ step ∈ after, step.sets ≠ .all := by
  cases h with
  | start hsteps => exact hsteps
  | replaced _ hafter => exact hafter

/-- The steps before settings were replaced do not matter for what the settings come to. -/
theorem Since.exists_foldl_apply {steps after : List Step} {s : Settings}
    (h : Since steps s after) :
    ∃ b : Builder, b.settings = s ∧ steps.foldl apply new = after.foldl apply b := by
  cases h with
  | start => exact ⟨new, rfl, rfl⟩
  | replaced before =>
    refine ⟨(before.foldl apply new).apply (.settings s), rfl, ?_⟩
    rw [List.foldl_append, List.foldl_cons]

/-! ## The last step that sets a thing counts -/

variable {steps : List Step} (b : Builder)

theorem locale_foldl_apply (h : ∀ step ∈ steps, step.sets ≠ .all) :
    (steps.foldl apply b).settings.locale =
      ((steps.filterMap Step.locale?).getLast?).getD b.settings.locale := by
  have hstep (c : Builder) : ∀ step ∈ steps,
      some (c.apply step).settings.locale = step.locale?.or (some c.settings.locale) := by
    intro step hmem
    cases step with
    | settings => exact (h _ hmem rfl).elim
    | locale => rfl
    | message => rfl
    | fallback => rfl
    | rule => rfl
  have hlast := foldl_last_write (fun c => some c.settings.locale) hstep b
  rw [Option.or_some] at hlast
  exact Option.some.inj hlast

theorem get?_messages_foldl_apply (h : ∀ step ∈ steps, step.sets ≠ .all) (rule : String) :
    (steps.foldl apply b).settings.messages.get? rule =
      ((steps.filterMap (Step.template? rule)).getLast?).or (b.settings.messages.get? rule) := by
  refine foldl_last_write (fun c => c.settings.messages.get? rule) ?_ b
  intro c step hmem
  cases step with
  | settings => exact (h _ hmem rfl).elim
  | message other template =>
    show (c.settings.messages.insert other template).get? rule = _
    rw [Dict.get?_insert, Step.template?]
    by_cases hrule : other = rule <;> simp [hrule]
  | locale => rfl
  | fallback => rfl
  | rule => rfl

theorem fallback_foldl_apply (h : ∀ step ∈ steps, step.sets ≠ .all) :
    (steps.foldl apply b).settings.fallback =
      ((steps.filterMap Step.fallback?).getLast?).or b.settings.fallback := by
  refine foldl_last_write (fun c => c.settings.fallback) ?_ b
  intro c step hmem
  cases step with
  | settings => exact (h _ hmem rfl).elim
  | locale => rfl
  | message => rfl
  | fallback => rfl
  | rule => rfl

/-- Replacing all settings drops no rule. -/
theorem get?_rules_foldl_apply (steps : List Step) (name : String) :
    (steps.foldl apply b).rules.custom.get? name =
      ((steps.filterMap (Step.rule? name)).getLast?).or (b.rules.custom.get? name) := by
  refine foldl_last_write (fun c => c.rules.custom.get? name) ?_ b
  intro c step _
  cases step with
  | rule other rule =>
    show (c.rules.custom.insert other rule).get? name = _
    rw [Dict.get?_insert, Step.rule?]
    by_cases hname : other = name <;> simp [hname]
  | settings => rfl
  | locale => rfl
  | message => rfl
  | fallback => rfl

/-! ## Steps in either order -/

/-- Steps that set different things may come in either order. -/
theorem apply_comm {x y : Step} (hx : x.sets ≠ .all) (hy : y.sets ≠ .all)
    (hne : x.sets ≠ y.sets) : (b.apply x).apply y = (b.apply y).apply x := by
  cases x <;> cases y
  case message.message rule template other template' =>
    have hrule : rule ≠ other := fun h => hne (congrArg Setting.template h)
    simp [apply, Settings.setMessage, Dict.insert_comm _ hrule]
  case rule.rule name rule other rule' =>
    have hname : name ≠ other := fun h => hne (congrArg Setting.rule h)
    simp [apply, RuleTable.install, Dict.insert_comm _ hname]
  -- what is left sets everything, the same thing twice, or different parts of the builder
  all_goals first
    | exact absurd rfl hx
    | exact absurd rfl hy
    | exact absurd rfl hne
    | rfl

end Builder

/-! ## Registering rules -/

namespace Run

/-- Registers custom rules one after the other. -/
def registerAll : List (String × CustomRule) → Run Unit
  | [] => Run.pure ()
  | r :: rs => (Run.register r.1 r.2).bind fun _ => registerAll rs

theorem registerAll_apply (rules : List (String × CustomRule)) (v : Validator) :
    registerAll rules v =
      some ⟨(), ⟨⟨v.rules.custom.insertAll rules⟩, v.messages⟩,
        rules.map fun r => .registered r.1 r.2⟩ := by
  induction rules generalizing v with
  | nil => rfl
  | cons r rs ih => rw [registerAll, bind_of_some rfl (ih _)]; rfl

/-- The rules of a table may be registered in any order. -/
theorem registerAll_of_perm {rules : List (String × CustomRule)} {t : RuleTable}
    (h : rules.Perm t.custom.entries) (messages : Catalog) :
    registerAll rules ⟨.empty, messages⟩ =
      some ⟨(), ⟨t, messages⟩, rules.map fun r => .registered r.1 r.2⟩ := by
  have htable : (RuleTable.empty.custom.insertAll rules) = t.custom := Dict.ofList_perm h
  rw [registerAll_apply, htable]

end Run

/-! ## Validators -/

namespace Builder

/-- The locale that counts after some steps that follow given settings. -/
def localeAfter (s : Settings) (after : List Step) : Locale :=
  ((after.filterMap Step.locale?).getLast?).getD s.locale

/-- **The last step that sets a thing counts.**  In every construction there are settings that
were the last ones to replace all others.  The validator has, for every rule, the last template
set for it since then, else that of these settings, else that of the locale; the locale is the
last one chosen since then, else that of the settings; and so for the fallback template.  Its
rules are, for every name, the last one registered in the whole construction.  Neighbouring steps
that set different things, and not all settings, may be swapped.  The validator is the one with
the settings that the construction comes to in which the rules are registered, in any order. -/
theorem run_last_writes :
    (∀ steps, ∃ s after, Since steps s after) ∧
    (∀ steps s after, Since steps s after →
      (∀ rule, (run steps).messages.get? rule =
        ((after.filterMap (Step.template? rule)).getLast?).or
          ((s.messages.get? rule).or
            ((Builtin.ofName? rule).map (localeAfter s after).template))) ∧
      (run steps).messages.fallback =
        ((after.filterMap Step.fallback?).getLast?).getD
          (s.fallback.getD (localeAfter s after).fallback)) ∧
    (∀ steps name, (run steps).rules.custom.get? name =
      (steps.filterMap (Step.rule? name)).getLast?) ∧
    (∀ (before after : List Step) (x y : Step),
      x.sets ≠ .all → y.sets ≠ .all → x.sets ≠ y.sets →
        run (before ++ x :: y :: after) = run (before ++ y :: x :: after)) ∧
    ∀ (steps : List Step) (rules : List (String × CustomRule)),
      rules.Perm (run steps).rules.custom.entries →
        Run.registerAll rules (Validator.ofSettings (steps.foldl apply new).settings) =
          some ⟨(), run steps, rules.map fun r => .registered r.1 r.2⟩ := by
  refine ⟨exists_since, ?_, ?_, ?_, ?_⟩
  · intro steps s after h
    obtain ⟨b, hb, hfold⟩ := h.exists_foldl_apply
    have hlocale : (steps.foldl apply new).settings.locale = localeAfter s after := by
      rw [hfold, locale_foldl_apply b h.sets_ne_all, hb, localeAfter]
    refine ⟨?_, ?_⟩
    · intro rule
      rw [run, build, Settings.get?_catalog, hlocale, hfold,
        get?_messages_foldl_apply b h.sets_ne_all, hb, Option.or_assoc]
    · rw [run, build, Settings.fallback_catalog, hlocale, hfold,
        fallback_foldl_apply b h.sets_ne_all, hb]
      cases ((after.filterMap Step.fallback?).getLast?) <;> rfl
  · intro steps name
    rw [run, build, get?_rules_foldl_apply]
    exact Option.or_none
  · intro before after x y hx hy hne
    rw [run, run, List.foldl_append, List.foldl_append, List.foldl_cons, List.foldl_cons,
      List.foldl_cons, List.foldl_cons, apply_comm _ hx hy hne]
  · intro steps rules hperm
    exact Run.registerAll_of_perm hperm _

/-- A construction in which all settings are replaced between two rules. -/
def replacedOnce : List Step :=
  [.rule "odd" (.ofTest fun _ _ => true), .message "min" "forgotten",
    .settings ⟨.chinese, none, Dict.ofList [("max", "{field} > {param}")]⟩,
    .message "min" "{field} < {param}", .locale .english, .rule "even" (.ofTest fun _ _ => false)]

/-- The template from before is forgotten, the rule is not; the locale that is chosen after a
template does not touch it; the rules may be registered in the other order. -/
theorem run_last_writes_replacedOnce :
    (run replacedOnce).messages.get? "min" = some "{field} < {param}" ∧
    (run replacedOnce).messages.get? "max" = some "{field} > {param}" ∧
    (run replacedOnce).messages.get? "len" = some "{field} must have length {param}" ∧
    (run replacedOnce).messages.fallback = "{field} failed validation" ∧
    run (replacedOnce.take 3 ++ .message "min" "{field} < {param}" :: .locale .english ::
        replacedOnce.drop 5) =
      run (replacedOnce.take 3 ++ .locale .english :: .message "min" "{field} < {param}" ::
        replacedOnce.drop 5) ∧
    Run.registerAll [("odd", .ofTest fun _ _ => true), ("even", .ofTest fun _ _ => false)]
        (Validator.ofSettings (replacedOnce.foldl apply new).settings) =
      some ⟨(), run replacedOnce, [.registered "odd" (.ofTest fun _ _ => true),
        .registered "even" (.ofTest fun _ _ => false)]⟩ := by
  have hsince : Since replacedOnce ⟨.chinese, none, Dict.ofList [("max", "{field} > {param}")]⟩
      (replacedOnce.drop 3) :=
    .replaced (replacedOnce.take 2) (by decide)
  have hlast := run_last_writes.2.1 _ _ _ hsince
  refine ⟨(hlast.1 "min").trans rfl, (hlast.1 "max").trans (by decide),
    (hlast.1 "len").trans (by decide), hlast.2.trans rfl, ?_, ?_⟩
  · exact run_last_writes.2.2.2.1 _ _ _ _ (by decide) (by decide) (by decide)
  · exact run_last_writes.2.2.2.2 replacedOnce _ (List.Perm.swap ..)

end Builder

end RecordCheck
