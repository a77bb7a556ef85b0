import RecordCheck.Catalog
import RecordCheck.Json.Shape

/-!
# Reports of failures

* `Failure` — one field that failed: its name and label, the rule and its parameter, the value
  as it was, and a message.
* `Report` — failures in the order of the fields, at most one for each.
* `Report.localize` — the same failures with messages from another catalog; everything that a
  message depends on is kept in the failure.
* `Envelope` — the report as an interface sends it to its clients.

In JSON a report is the array of its failures.  A failure is an object with the members `field`,
`label`, `rule`, `param`, `value` and `message`; only `param` may be left out, and is when it is
empty.  An envelope is an object with one member `error`.
-/

namespace RecordCheck

/-- A field that failed. -/
structure Failure where
  field : String
  label : String
  rule : String
  param : String
  value : Json
  message : String
  deriving BEq, Inhabited

namespace Failure

/-- The failure of a field, with the message that a catalog has for it. -/
def render (c : Catalog) (field label rule param : String) (value : Json) : Failure :=
  ⟨field, label, rule, param, value, c.render rule label param⟩

/-- The failure with the message of another catalog. -/
def localize (c : Catalog) (f : Failure) : Failure :=
  { f with message := c.render f.rule f.label f.param }

end Failure

/-- Failures in the order of the fields. -/
structure Report where
  failures : List Failure
  deriving BEq, Inhabited

namespace Report

/-- The report without failures. -/
def empty : Report := ⟨[]⟩

/-- The report with one more failure. -/
def push (r : Report) (f : Failure) : Report :=
  ⟨r.failures ++ [f]⟩

/-- Did nothing fail? -/
def isEmpty (r : Report) : Bool :=
  r.failures.isEmpty

/-- The number of failures. -/
def size (r : Report) : Nat :=
  r.failures.length

/-- The first failure. -/
def first? (r : Report) : Option Failure :=
  r.failures.head?

/-- The first failure of a field. -/
def get? (r : Report) (field : String) : Option Failure :=
  r.failures.find? fun f => f.field == field

/-- The messages, in order. -/
def messages (r : Report) : List String :=
  r.failures.map Failure.message

/-- The names of the fields that failed, in order. -/
def fieldNames (r : Report) : List String :=
  r.failures.map Failure.field

/-- The report with the messages of another catalog. -/
def localize (c : Catalog) (r : Report) : Report :=
  ⟨r.failures.map (Failure.localize c)⟩

/-- The report in one line: its first message. -/
def summary (r : Report) : String :=
  match r.first? with
  | some f => f.message
  | none => "validation failed"

/-- What a check comes to: nothing to say, or a report with at least one failure. -/
def outcome (r : Report) : Except Report Unit :=
  if r.isEmpty then .ok () else .error r

theorem outcome_mk (failures : List Failure) :
    outcome ⟨failures⟩ = if failures = [] then .ok () else .error ⟨failures⟩ := by
  cases failures <;> rfl

/-- A check fails with the report of some failures. -/
theorem outcome_eq_error_iff {failures : List Failure} {r : Report} :
    outcome ⟨failures⟩ = .error r ↔ failures ≠ [] ∧ r = ⟨failures⟩ := by
  rw [outcome_mk]
  by_cases h : failures = []
  · simp [h]
  · simp [h, eq_comm]

end Report

/-! ## Envelopes -/

/-- One failure for a client: the label of the field, the rule as a code, and the message. -/
structure Envelope.Entry where
  field : String
  code : String
  message : String
  deriving DecidableEq, Repr, Inhabited

/-- A report for a client. -/
structure Envelope where
  kind : String
  message : String
  fields : List Envelope.Entry
  deriving DecidableEq, Repr, Inhabited

/-- The report as it is sent to a client; the message is that of the first failure. -/
def Report.envelope (r : Report) : Envelope :=
  ⟨"validation_error", (r.first?.map Failure.message).getD "Validation failed",
    r.failures.map fun f => ⟨f.label, f.rule, f.message⟩⟩

/-! ## In JSON -/

/-- A failure as JSON. -/
def Failure.json (f : Failure) : Json :=
  .object ([("field", .text f.field), ("label", .text f.label), ("rule", .text f.rule)]
    ++ (if f.param.isEmpty then [] else [("param", .text f.param)])
    ++ [("value", f.value), ("message", .text f.message)])

/-- The failure that a document says. -/
def Failure.read? (d : Document) : Option Failure :=
  match d.slots? ["field", "label", "rule", "param", "value", "message"] with
  | some [field, label, rule, param, value, message] =>
    match Document.required Document.text? field, Document.required Document.text? label,
        Document.required Document.text? rule, Document.defaulted "" Document.text? param,
        Document.required Document.value? value, Document.required Document.text? message with
    | some field, some label, some rule, some param, some value, some message =>
      some ⟨field, label, rule, param, value, message⟩
    | _, _, _, _, _, _ => none
  | _ => none

/-- A report as JSON. -/
def Report.json (r : Report) : Json :=
  .array (r.failures.map Failure.json)

/-- The report that a document says. -/
def Report.read? (d : Document) : Option Report :=
  (Document.list? Failure.read? d).map .mk

/-- An entry of an envelope as JSON. -/
def Envelope.Entry.json (e : Envelope.Entry) : Json :=
  .object [("field", .text e.field), ("code", .text e.code), ("message", .text e.message)]

/-- The entry that a document says. -/
def Envelope.Entry.read? (d : Document) : Option Envelope.Entry :=
  match d.slots? ["field", "code", "message"] with
  | some [field, code, message] =>
    match Document.required Document.text? field, Document.required Document.text? code,
        Document.required Document.text? message with
    | some field, some code, some message => some ⟨field, code, message⟩
    | _, _, _ => none
  | _ => none

/-- An envelope as JSON. -/
def Envelope.json (e : Envelope) : Json :=
  .object [("error", .object [("type", .text e.kind), ("message", .text e.message),
    ("fields", .array (e.fields.map Envelope.Entry.json))])]

/-- The body of the envelope that a document says. -/
def Envelope.readBody? (d : Document) : Option Envelope :=
  match d.slots? ["type", "message", "fields"] with
  | some [kind, message, fields] =>
    match Document.required Document.text? kind, Document.required Document.text? message,
        Document.required (Document.list? Envelope.Entry.read?) fields with
    | some kind, some message, some fields => some ⟨kind, message, fields⟩
    | _, _, _ => none
  | _ => none

/-- The envelope that a document says. -/
def Envelope.read? (d : Document) : Option Envelope :=
  match d.slots? ["error"] with
  | some [body] => Document.required Envelope.readBody? body
  | _ => none

end RecordCheck
