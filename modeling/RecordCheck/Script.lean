import RecordCheck.Dict
import RecordCheck.View

/-!
# Custom rules

A custom rule looks at the view of a field and the text of its parameter and says whether the
field passes.  While it does so it may talk to the validator that runs it; what it does is a
`Script`:

* it may register a further rule or set a message template, and
* it may ask the validator for its verdict on another rule, and go on with the answer.

A rule that does none of this is a plain test (`CustomRule.ofTest`).
-/

namespace RecordCheck

/-- What a custom rule does when it runs. -/
inductive Script where
  /-- It ends with its verdict. -/
  | answer (passes : Bool)
  /-- It registers a rule under a name. -/
  | register (name : String) (body : View → String → Script) (next : Script)
  /-- It sets the message template of a rule. -/
  | setMessage (rule template : String) (next : Script)
  /-- It asks for the verdict of a rule on a view and a parameter. -/
  | ask (value : View) (rule param : String) (next : Bool → Script)

/-- Who registered a rule. -/
inductive Origin where
  /-- The program that uses the validator. -/
  | program
  /-- Another rule, while it ran. -/
  | script
  deriving DecidableEq, Repr

/-- A custom rule. -/
structure CustomRule where
  origin : Origin
  body : View → String → Script

/-- The rule that a test on view and parameter makes. -/
def CustomRule.ofTest (test : View → String → Bool) : CustomRule :=
  ⟨.program, fun value param => .answer (test value param)⟩

/-- The custom rules of a validator, by name. -/
structure RuleTable where
  custom : Dict CustomRule

namespace RuleTable

/-- The table without custom rules. -/
def empty : RuleTable := ⟨.empty⟩

instance : Inhabited RuleTable := ⟨empty⟩

/-- The table with a rule installed under a name, and the rule that was there. -/
def register (t : RuleTable) (name : String) (rule : CustomRule) :
    RuleTable × Option CustomRule :=
  (⟨t.custom.insert name rule⟩, t.custom.get? name)

/-- The table with a rule installed under a name. -/
def install (t : RuleTable) (name : String) (rule : CustomRule) : RuleTable :=
  ⟨t.custom.insert name rule⟩

/-- Is there a custom rule with this name? -/
def hasCustom (t : RuleTable) (name : String) : Bool :=
  t.custom.contains name

/-- The names of the custom rules, as descriptions show them. -/
def describe (t : RuleTable) : String :=
  "RuleTable \x7b custom: " ++ Text.listed (t.custom.keys.map Text.quoted) ++ " \x7d"

end RuleTable

end RecordCheck
