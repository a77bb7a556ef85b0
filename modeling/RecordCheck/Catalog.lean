import RecordCheck.Dict
import RecordCheck.Locale

/-!
# Message catalogs

A catalog has a template for each of some rules and a fallback template for the others.

* `Catalog.ofLocale` — the catalog of a locale, with one template for every built-in rule.
* `Catalog.set`, `Catalog.extend`, `Catalog.setFallback` — overriding templates.
* `Catalog.render` — the message for a rule that failed.  Placeholders are plain pieces of text:
  they are replaced one after the other, first the label, then the parameter, and for `range`
  the two sides of a parameter with exactly one hyphen.
* `Catalog.json`, `Catalog.read?` — a catalog is an object with its `templates` by rule and its
  `fallback`; both have to be given.
-/

namespace RecordCheck

/-- Message templates by rule, and the template for rules that have none. -/
structure Catalog where
  templates : Dict String
  fallback : String
  deriving DecidableEq

namespace Catalog

/-- The catalog of a locale. -/
def ofLocale (l : Locale) : Catalog :=
  ⟨Dict.ofList l.templates, l.fallback⟩

/-- The English catalog. -/
def english : Catalog := ofLocale .english

/-- The Simplified Chinese catalog. -/
def chinese : Catalog := ofLocale .chinese

instance : Inhabited Catalog := ⟨english⟩

/-- A catalog without templates. -/
def empty (fallback : String) : Catalog :=
  ⟨.empty, fallback⟩

/-- The catalog with the template for a rule set. -/
def set (c : Catalog) (rule template : String) : Catalog :=
  { c with templates := c.templates.insert rule template }

/-- The catalog with several templates set, one after the other. -/
def extend (c : Catalog) (templates : List (String × String)) : Catalog :=
  { c with templates := c.templates.insertAll templates }

/-- The catalog with the fallback template set. -/
def setFallback (c : Catalog) (template : String) : Catalog :=
  { c with fallback := template }

/-- The template for a rule, if it has one of its own. -/
def get? (c : Catalog) (rule : String) : Option String :=
  c.templates.get? rule

/-- The number of rules with a template of their own. -/
def size (c : Catalog) : Nat :=
  c.templates.size

/-- Does no rule have a template of its own? -/
def isEmpty (c : Catalog) : Bool :=
  c.templates.isEmpty

/-- A template that is set is the one for its rule; every other rule keeps its own. -/
theorem get?_set (c : Catalog) (name template rule : String) :
    (c.set name template).get? rule = if name = rule then some template else c.get? rule :=
  Dict.get?_insert c.templates name rule template

theorem extend_cons (c : Catalog) (t : String × String) (ts : List (String × String)) :
    c.extend (t :: ts) = (c.set t.1 t.2).extend ts := rfl

/-- The catalog of a locale has the templates of the locale for the built-in rules. -/
theorem get?_ofLocale (l : Locale) (rule : String) :
    (ofLocale l).get? rule = (Builtin.ofName? rule).map l.template := by
  have hkeys : (l.templates.map Prod.fst).Nodup := by
    rw [Locale.names_templates]
    exact Builtin.nodup_names
  rw [get?, ofLocale]
  cases hb : Builtin.ofName? rule with
  | some b =>
    have hget := Dict.get?_ofList_of_mem hkeys (l.mem_templates b)
    rw [Builtin.name_of_ofName? hb] at hget
    rw [hget, Option.map_some]
  | none =>
    have hkey : rule ∉ l.templates.map Prod.fst := by
      rw [Locale.names_templates, List.mem_map]
      rintro ⟨b, -, hname⟩
      exact Builtin.ofName?_eq_none_iff.1 hb b hname
    rw [← Dict.mem_keys_ofList, Dict.mem_keys_iff, Option.not_isSome_iff_eq_none] at hkey
    rw [hkey, Option.map_none]

/-- The template that applies to a rule. -/
def templateFor (c : Catalog) (rule : String) : String :=
  (c.get? rule).getD c.fallback

/-- A template with its placeholders replaced. -/
def fill (template rule label param : List Char) : List Char :=
  let message := Text.replaceAll "{field}".toList label template
  let message := Text.replaceAll "{param}".toList param message
  if rule = "range".toList then
    match Text.halves '-' param with
    | some (lo, hi) =>
      Text.replaceAll "{max}".toList hi (Text.replaceAll "{min}".toList lo message)
    | none => message
  else message

/-- The message for a rule that failed, given the label of the field and the parameter. -/
def render (c : Catalog) (rule label param : String) : String :=
  String.ofList (fill (c.templateFor rule).toList rule.toList label.toList param.toList)

/-- A rule with a template of its own has its message from it. -/
theorem render_of_get? {c : Catalog} {rule template : String} (h : c.get? rule = some template)
    (label param : String) :
    c.render rule label param =
      String.ofList (fill template.toList rule.toList label.toList param.toList) := by
  rw [render, templateFor, h, Option.getD_some]

/-! ## In JSON -/

/-- A catalog as JSON. -/
def json (c : Catalog) : Json :=
  .object [("templates", .ofDict c.templates), ("fallback", .text c.fallback)]

/-- The catalog that a document says. -/
def read? (d : Document) : Option Catalog :=
  match d.slots? ["templates", "fallback"] with
  | some [templates, fallback] =>
    match Document.required (Document.dict? Document.text?) templates,
        Document.required Document.text? fallback with
    | some templates, some fallback => some ⟨templates, fallback⟩
    | _, _ => none
  | _ => none

end Catalog

end RecordCheck
