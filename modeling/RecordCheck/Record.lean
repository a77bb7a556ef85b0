import RecordCheck.RuleLine
import RecordCheck.Value

/-!
# Records

A record lists its entries in the order in which they are declared: fields with a rule line, and
embedded records, whose entries count as if they stood in place.

* `Field.displayLabel` — the name of a field in messages: its label, else its serialization name
  up to the first comma, else its declared name.
* `Entry.flatten` — all fields of a record, depth first and in place.
-/

namespace RecordCheck

/-- A field of a record. -/
structure Field where
  /-- The declared name. -/
  name : String
  /-- The label given for messages. -/
  label : Option String := none
  /-- The name under which the field is serialized, perhaps followed by a comma and options. -/
  serialName : Option String := none
  /-- The rule line. -/
  line : String
  /-- The value. -/
  value : Value
  deriving Inhabited

namespace Field

/-- The name of a field in messages.  Empty names and the serialization name `-` do not count;
they are sorted out before the options are cut off. -/
def displayLabel (f : Field) : String :=
  match f.label, f.serialName with
  | some label, serial => if label.isEmpty then fromSerial serial else label
  | none, serial => fromSerial serial
where
  /-- The name without regard to the label. -/
  fromSerial : Option String → String
    | some s =>
      if s.isEmpty || s == "-" then f.name else String.ofList (Text.cutAt ',' s.toList).1
    | none => f.name

/-- The field as descriptions show it. -/
def describe (f : Field) : String :=
  "Field \x7b name: " ++ Text.quoted f.name ++ ", label: " ++ Text.quotedOption f.label
    ++ ", serde_name: " ++ Text.quotedOption f.serialName ++ ", rules: " ++ Text.quoted f.line
    ++ ", value: " ++ f.value.view.describe ++ " \x7d"

end Field

/-- An entry of a record. -/
inductive Entry where
  | field (f : Field)
  | embedded (entries : List Entry)
  deriving Inhabited

mutual

/-- The fields of an entry, depth first. -/
def Entry.flatten : Entry → List Field
  | .field f => [f]
  | .embedded entries => Entry.flattenAll entries

/-- The fields of entries, in order. -/
def Entry.flattenAll : List Entry → List Field
  | [] => []
  | e :: es => e.flatten ++ Entry.flattenAll es

end

end RecordCheck
