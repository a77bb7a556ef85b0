import RecordCheck.Builtin
import RecordCheck.Dict
import RecordCheck.Json.Shape

/-!
# Locales

A locale has a tag, a template for the message of every built-in rule, and a fallback template
for all other rules.  Templates hold placeholders in braces: `field` for the label of the field,
`param` for the parameter of the rule, and `min` and `max` for the two sides of a range.

* `Locale.tag`, `Locale.ofTag?` — the tag under which a locale is known; the language alone is
  enough for Chinese.
* `Locale.templates`, `Locale.fallback` — its templates, `Locale.template` — the one for a rule.
* `Locale.names_templates` — every rule that is listed has a template, and nothing else has one.
* `Locale.json`, `Locale.read?` — a locale is written as its tag.  It is read from a tag, or from
  an object whose only member has a tag for its name and `null` for its value.
-/

namespace RecordCheck

/-- The languages in which messages come. -/
inductive Locale where
  | english
  | chinese
  deriving DecidableEq, Repr

namespace Locale

instance : Inhabited Locale := ⟨.english⟩

/-- The tag of a locale. -/
def tag : Locale → String
  | .english => "en"
  | .chinese => "zh-CN"

/-- The locale that a tag stands for. -/
def ofTag? : String → Option Locale
  | "en" => some .english
  | "zh-CN" => some .chinese
  | "zh" => some .chinese
  | _ => none

/-- The English templates, each with the name of its rule. -/
def englishTemplates : List (String × String) :=
  [("required", "{field} is required"),
   ("min", "{field} must be at least {param}"),
   ("max", "{field} must be at most {param}"),
   ("len", "{field} must have length {param}"),
   ("range", "{field} must be between {min} and {max}"),
   ("email", "{field} must be a valid email address"),
   ("phone", "{field} must be a valid phone number"),
   ("url", "{field} must be a valid URL"),
   ("ip", "{field} must be a valid IP address"),
   ("alpha", "{field} may only contain letters"),
   ("alphanum", "{field} may only contain letters and digits"),
   ("numeric", "{field} may only contain digits"),
   ("number", "{field} must be a number"),
   ("lowercase", "{field} must be lowercase"),
   ("uppercase", "{field} must be uppercase"),
   ("contains", "{field} must contain {param}"),
   ("startswith", "{field} must start with {param}"),
   ("endswith", "{field} must end with {param}"),
   ("regex", "{field} has an invalid format"),
   ("eq", "{field} must equal {param}"),
   ("ne", "{field} must not equal {param}"),
   ("gt", "{field} must be greater than {param}"),
   ("gte", "{field} must be greater than or equal to {param}"),
   ("lt", "{field} must be less than {param}"),
   ("lte", "{field} must be less than or equal to {param}"),
   ("oneof", "{field} must be one of: {param}"),
   ("username", "{field} may only contain letters, digits and underscores"),
   ("password", "{field} must contain letters and digits and be at least {param} characters"),
   ("idcard", "{field} must be a valid ID card number")]

/-- The Simplified Chinese templates, each with the name of its rule. -/
def chineseTemplates : List (String × String) :=
  [("required", "{field}不能为空"),
   ("min", "{field}长度不能小于{param}"),
   ("max", "{field}长度不能超过{param}"),
   ("len", "{field}长度必须为{param}"),
   ("range", "{field}长度必须在{min}-{max}之间"),
   ("email", "{field}必须是有效的邮箱地址"),
   ("phone", "{field}必须是有效的手机号"),
   ("url", "{field}必须是有效的URL"),
   ("ip", "{field}必须是有效的IP地址"),
   ("alpha", "{field}只能包含字母"),
   ("alphanum", "{field}只能包含字母和数字"),
   ("numeric", "{field}只能包含数字"),
   ("number", "{field}必须是数字"),
   ("lowercase", "{field}只能包含小写字母"),
   ("uppercase", "{field}只能包含大写字母"),
   ("contains", "{field}必须包含{param}"),
   ("startswith", "{field}必须以{param}开头"),
   ("endswith", "{field}必须以{param}结尾"),
   ("regex", "{field}格式不正确"),
   ("eq", "{field}必须等于{param}"),
   ("ne", "{field}不能等于{param}"),
   ("gt", "{field}必须大于{param}"),
   ("gte", "{field}必须大于或等于{param}"),
   ("lt", "{field}必须小于{param}"),
   ("lte", "{field}必须小于或等于{param}"),
   ("oneof", "{field}必须是以下值之一: {param}"),
   ("username", "{field}只能包含字母、数字和下划线"),
   ("password", "{field}必须包含字母和数字，长度至少{param}位"),
   ("idcard", "{field}必须是有效的身份证号")]

/-- The templates of a locale, each with the name of its rule. -/
def templates : Locale → List (String × String)
  | .english => englishTemplates
  | .chinese => chineseTemplates

/-- The template for all other rules. -/
def fallback : Locale → String
  | .english => "{field} failed validation"
  | .chinese => "{field}验证失败"

/-- The template for a built-in rule. -/
def template (l : Locale) (b : Builtin) : String :=
  (l.templates.lookup b.name).getD l.fallback

/-- The templates of a locale are for the rules that are listed, in their order. -/
theorem names_templates (l : Locale) : l.templates.map Prod.fst = Builtin.all.map Builtin.name := by
  cases l <;> rfl

/-- A built-in rule stands with its template in the table of the locale. -/
theorem mem_templates (l : Locale) (b : Builtin) : (b.name, l.template b) ∈ l.templates := by
  have hname : b.name ∈ l.templates.map Prod.fst := by
    rw [names_templates]
    exact List.mem_map_of_mem (Builtin.mem_all b)
  obtain ⟨text, htext⟩ := Option.isSome_iff_exists.1 (Dict.isSome_lookup_iff_mem_map.2 hname)
  rw [template, htext]
  exact Dict.mem_of_lookup htext

/-! ## In JSON -/

/-- A locale as JSON. -/
def json (l : Locale) : Json :=
  .text l.tag

/-- The locale that a document says. -/
def read? : Document → Option Locale
  | .text s => ofTag? s
  | .object [(some name, .null)] => ofTag? name
  | _ => none

end Locale

end RecordCheck
