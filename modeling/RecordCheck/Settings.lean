import RecordCheck.Catalog
import RecordCheck.Json.Reader

/-!
# Settings

The settings from which a validator's catalog is made: a locale, perhaps a fallback template, and
templates for single rules (`Settings.catalog`).

In JSON settings are an object with the members `locale`, `fallback_message` and `messages`.  Each
of them may be left out: what is not said is as in the default settings.  A missing fallback and
an empty collection of messages are not written.
-/

namespace RecordCheck

/-- The settings of a validator. -/
structure Settings where
  locale : Locale
  fallback : Option String
  messages : Dict String
  deriving DecidableEq

namespace Settings

/-- English, with nothing overridden. -/
def default : Settings := ⟨.english, none, .empty⟩

instance : Inhabited Settings := ⟨default⟩

/-- The settings with a template for a rule. -/
def setMessage (s : Settings) (rule template : String) : Settings :=
  { s with messages := s.messages.insert rule template }

/-- The catalog of the locale with the templates of the settings over it. -/
def catalog (s : Settings) : Catalog :=
  let c := Catalog.ofLocale s.locale
  let c := match s.fallback with
    | some template => c.setFallback template
    | none => c
  c.extend s.messages.entries

theorem templates_catalog (s : Settings) :
    s.catalog.templates = (Catalog.ofLocale s.locale).templates.insertAll s.messages.entries := by
  rw [catalog, Catalog.extend]
  cases s.fallback <;> rfl

/-- A template of the settings comes before that of the locale. -/
theorem get?_catalog (s : Settings) (rule : String) :
    s.catalog.get? rule =
      (s.messages.get? rule).or ((Builtin.ofName? rule).map s.locale.template) := by
  rw [Catalog.get?, templates_catalog, Dict.get?_insertAll_entries, ← Catalog.get?_ofLocale,
    Catalog.get?]

theorem fallback_catalog (s : Settings) :
    s.catalog.fallback = s.fallback.getD s.locale.fallback := by
  rw [catalog, Catalog.extend]
  cases s.fallback <;> rfl

/-! ## In JSON -/

/-- Settings as JSON. -/
def json (s : Settings) : Json :=
  .object (("locale", s.locale.json) :: Json.optionalMember "fallback_message" s.fallback
    ++ if s.messages.isEmpty then [] else [("messages", .ofDict s.messages)])

/-- The settings that a document says. -/
def read? (d : Document) : Option Settings :=
  match d.slots? ["locale", "fallback_message", "messages"] with
  | some [locale, fallback, messages] =>
    match Document.defaulted .english Locale.read? locale,
        Document.defaulted none (Document.nullable? Document.text?) fallback,
        Document.defaulted .empty (Document.dict? Document.text?) messages with
    | some locale, some fallback, some messages => some ⟨locale, fallback, messages⟩
    | _, _, _ => none
  | _ => none

/-- The settings that a text says. -/
def parse? (s : String) : Option Settings :=
  (Document.parse? s).bind read?

end Settings

end RecordCheck
