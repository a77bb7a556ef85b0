import RecordCheck.Run
import RecordCheck.Settings

/-!
# Building validators

A validator is built in steps.  Settings may be replaced as a whole or one by one, and rules may
be registered; a later step overrides an earlier one that sets the same thing.

* `Builder.Step`, `Builder.apply` — the steps and what they do.
* `Builder.build` — the validator that has been described.
* `Validator.ofSettings` — the validator with given settings and no custom rules.
-/

namespace RecordCheck

/-- The validator with the built-in rules and the English messages. -/
def Validator.new : Validator :=
  ⟨.empty, .english⟩

/-- The validator with given settings. -/
def Validator.ofSettings (s : Settings) : Validator :=
  ⟨.empty, s.catalog⟩

/-- A validator under construction. -/
structure Builder where
  settings : Settings
  rules : RuleTable

namespace Builder

/-- Default settings and no custom rules. -/
def new : Builder := ⟨.default, .empty⟩

/-- A step of the construction. -/
inductive Step where
  /-- Replaces all settings. -/
  | settings (s : Settings)
  /-- Chooses the locale. -/
  | locale (l : Locale)
  /-- Sets the template of a rule. -/
  | message (rule template : String)
  /-- Sets the fallback template. -/
  | fallback (template : String)
  /-- Registers a custom rule. -/
  | rule (name : String) (rule : CustomRule)

/-- The builder after a step. -/
def apply (b : Builder) : Step → Builder
  | .settings s => { b with settings := s }
  | .locale l => { b with settings := { b.settings with locale := l } }
  | .message rule template => { b with settings := b.settings.setMessage rule template }
  | .fallback template => { b with settings := { b.settings with fallback := some template } }
  | .rule name rule => { b with rules := b.rules.install name rule }

/-- The validator that has been described. -/
def build (b : Builder) : Validator :=
  ⟨b.rules, b.settings.catalog⟩

/-- The validator that some steps describe. -/
def run (steps : List Step) : Validator :=
  (steps.foldl apply new).build

end Builder

end RecordCheck
