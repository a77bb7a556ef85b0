import RecordCheck.Check

/-!
# Schemas

A schema attaches rule lines to a type from the outside.  It is declared item by item: a field
with an accessor, or an embedded record; a label or a serialization name goes to the field that
was declared last, and nowhere when the last item is an embedded record.

* `Schema.field`, `Schema.embed`, `Schema.label`, `Schema.serialName` — the declarations.
* `Schema.bind` — the record that a value makes with a schema.
-/

namespace RecordCheck

variable {ρ : Type}

/-- A declaration of a schema for values of type `ρ`. -/
inductive Schema.Item (ρ : Type) where
  | field (name : String) (label serialName : Option String) (line : String) (access : ρ → Value)
  | embedded (access : ρ → List Entry)

/-- Rule lines for a type. -/
structure Schema (ρ : Type) where
  items : List (Schema.Item ρ)

namespace Schema

/-- The schema without declarations. -/
def empty : Schema ρ := ⟨[]⟩

/-- Declares a field with its rule line and accessor. -/
def field (s : Schema ρ) (name line : String) (access : ρ → Value) : Schema ρ :=
  ⟨s.items ++ [.field name none none line access]⟩

/-- Declares an embedded record. -/
def embed (s : Schema ρ) (access : ρ → List Entry) : Schema ρ :=
  ⟨s.items ++ [.embedded access]⟩

/-- Changes the last item of a list. -/
def changeLast (change : Item ρ → Item ρ) : List (Item ρ) → List (Item ρ)
  | [] => []
  | [item] => [change item]
  | item :: items => item :: changeLast change items

/-- Gives a field a label; an embedded record stays as it is. -/
def Item.setLabel (text : String) : Item ρ → Item ρ
  | .field name _ serialName line access => .field name (some text) serialName line access
  | .embedded access => .embedded access

/-- Gives a field a serialization name; an embedded record stays as it is. -/
def Item.setSerialName (text : String) : Item ρ → Item ρ
  | .field name label _ line access => .field name label (some text) line access
  | .embedded access => .embedded access

/-- Labels the field that was declared last. -/
def label (s : Schema ρ) (text : String) : Schema ρ :=
  ⟨changeLast (Item.setLabel text) s.items⟩

/-- Gives the field that was declared last a serialization name. -/
def serialName (s : Schema ρ) (text : String) : Schema ρ :=
  ⟨changeLast (Item.setSerialName text) s.items⟩

/-- The number of items. -/
def size (s : Schema ρ) : Nat :=
  s.items.length

/-- Has nothing been declared? -/
def isEmpty (s : Schema ρ) : Bool :=
  s.items.isEmpty

/-- The entry that an item makes of a value. -/
def Item.entry (value : ρ) : Item ρ → Entry
  | .field name label serialName line access =>
    .field ⟨name, label, serialName, line, access value⟩
  | .embedded access => .embedded (access value)

/-- The record that a value makes with a schema. -/
def bind (s : Schema ρ) (value : ρ) : List Entry :=
  s.items.map (Item.entry value)

/-- A declaration as descriptions show it. -/
def Item.describe : Item ρ → String
  | .field name _ _ line _ => "(" ++ Text.quoted name ++ ", " ++ Text.quoted line ++ ")"
  | .embedded _ => Text.quoted "<embedded>"

/-- The schema as descriptions show it. -/
def describe (s : Schema ρ) : String :=
  Text.listed (s.items.map Item.describe)

end Schema

/-- Checks a value against a schema. -/
def Run.validateWith (depth : Nat) (s : Schema ρ) (value : ρ) : Run (Except Report Unit) :=
  Run.validate depth (s.bind value)

end RecordCheck
