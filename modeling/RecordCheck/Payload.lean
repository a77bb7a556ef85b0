import RecordCheck.Check
import RecordCheck.Json.Shape

/-!
# JSON payloads

A payload is a JSON object that is checked against rule lines for some of its members.

* `FieldRules` — the rule lines, in the order in which the members are checked; a member may
  have several.
* `FieldRules.record` — the record that a payload makes with them.  A member that the payload
  does not have counts as `null`.
* `Run.validateJson` — the check.  A payload that is not an object is rejected without looking at
  any rule.
* `FieldRules.json`, `FieldRules.read?` — rule lines in JSON are an array of objects with the
  members `field`, `rules` and `label`.  The label may be left out or `null`, and is left out
  when there is none.
-/

namespace RecordCheck

/-- The rule line for a member of a payload. -/
structure FieldRule where
  field : String
  line : String
  label : Option String
  deriving DecidableEq, Repr, Inhabited

/-- Rule lines for the members of a payload, in order. -/
structure FieldRules where
  rules : List FieldRule
  deriving DecidableEq, Repr, Inhabited

/-- Why a check failed. -/
inductive CheckError where
  /-- What was to be checked is of this kind and has no members. -/
  | notARecord (kind : String)
  /-- Some fields failed. -/
  | invalid (report : Report)
  /-- The settings of a validator could not be read. -/
  | settings
  deriving Inhabited

namespace CheckError

/-- The message of an error.  The reason why settings could not be read is not part of it. -/
def message : CheckError → String
  | .notARecord kind => "validator: expected a record, got " ++ kind
  | .invalid report => report.summary
  | .settings => "invalid validator configuration: "

/-- The failures of fields, if that is what went wrong. -/
def report? : CheckError → Option Report
  | .invalid report => some report
  | _ => none

end CheckError

namespace FieldRules

/-- No rule lines. -/
def empty : FieldRules := ⟨[]⟩

/-- One more rule line. -/
def push (rs : FieldRules) (r : FieldRule) : FieldRules :=
  ⟨rs.rules ++ [r]⟩

/-- One more rule line, without a label. -/
def field (rs : FieldRules) (name line : String) : FieldRules :=
  rs.push ⟨name, line, none⟩

/-- One more rule line, with a label. -/
def labeled (rs : FieldRules) (name label line : String) : FieldRules :=
  rs.push ⟨name, line, some label⟩

/-- Rule lines from pairs of names and lines. -/
def ofPairs (pairs : List (String × String)) : FieldRules :=
  ⟨pairs.map fun p => ⟨p.1, p.2, none⟩⟩

/-- The number of rule lines. -/
def size (rs : FieldRules) : Nat :=
  rs.rules.length

/-- Are there no rule lines? -/
def isEmpty (rs : FieldRules) : Bool :=
  rs.rules.isEmpty

/-- The record that the members of a payload make. -/
def record (rs : FieldRules) (members : List (String × Json)) : List Entry :=
  rs.rules.map fun r =>
    .field {
      name := r.field
      label := r.label
      line := r.line
      value := .json ((Json.member? members r.field).getD .null) }

end FieldRules

/-- Checks a payload against rule lines. -/
def Run.validateJson (depth : Nat) (payload : Json) (rules : FieldRules) :
    Run (Except CheckError Unit) :=
  match payload with
  | .object members =>
    (Run.validate depth (rules.record members)).bind fun outcome =>
      Run.pure (outcome.mapError .invalid)
  | other =>
    (Run.note (.payloadRejected other.kindName)).bind fun _ =>
      Run.pure (.error (.notARecord other.kindName))

/-! ## Rule lines in JSON -/

/-- A rule line as JSON. -/
def FieldRule.json (r : FieldRule) : Json :=
  .object ([("field", .text r.field), ("rules", .text r.line)]
    ++ Json.optionalMember "label" r.label)

/-- The rule line that a document says. -/
def FieldRule.read? (d : Document) : Option FieldRule :=
  match d.slots? ["field", "rules", "label"] with
  | some [field, line, label] =>
    match Document.required Document.text? field, Document.required Document.text? line,
        Document.defaulted none (Document.nullable? Document.text?) label with
    | some field, some line, some label => some ⟨field, line, label⟩
    | _, _, _ => none
  | _ => none

/-- Rule lines as JSON. -/
def FieldRules.json (rs : FieldRules) : Json :=
  .array (rs.rules.map FieldRule.json)

/-- The rule lines that a document says. -/
def FieldRules.read? (d : Document) : Option FieldRules :=
  (Document.list? FieldRule.read? d).map .mk

end RecordCheck
