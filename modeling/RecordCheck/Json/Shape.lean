import RecordCheck.Json.Basic

/-!
# Reading documents of a known shape

A structured document gives values to members with known names.  It is either an object, whose
unknown members are stepped over whatever they hold and whose known names occur at most once, or
an array with the values in the order of the names, of which the last ones may be left out.

* `Document.slots?` — what is given for each of the known names.
* `Document.required`, `Document.defaulted` — reading what is given, or what stands for it.
* `Document.text?`, `nullable?`, `list?`, `dict?` — the shapes of single values.
-/

namespace RecordCheck.Document

variable {α : Type}

/-- Are all names readable? -/
def namesReadable (members : List (Option String × Document)) : Bool :=
  members.all fun m => m.1.isSome

/-- The values given for a name. -/
def valuesOf (name : String) (members : List (Option String × Document)) : List Document :=
  members.filterMap fun m => if m.1 = some name then some m.2 else none

/-- What an object gives for each of the known names, if none of them is given twice. -/
def memberSlots? (members : List (Option String × Document)) :
    List String → Option (List (Option Document))
  | [] => some []
  | name :: names =>
    match valuesOf name members, memberSlots? members names with
    | [], some slots => some (none :: slots)
    | [d], some slots => some (some d :: slots)
    | _, _ => none

/-- What an array gives for each of the known names, in their order. -/
def itemSlots? : List Document → List String → Option (List (Option Document))
  | [], names => some (names.map fun _ => none)
  | _ :: _, [] => none
  | d :: ds, _ :: names => (itemSlots? ds names).map (some d :: ·)

/-- What a structured document gives for each of the known names. -/
def slots? (names : List String) : Document → Option (List (Option Document))
  | .object members => if namesReadable members then memberSlots? members names else none
  | .array items => itemSlots? items names
  | _ => none

/-- Reads a value that has to be given. -/
def required (read? : Document → Option α) (slot : Option Document) : Option α :=
  slot.bind read?

/-- Reads a value that has a default. -/
def defaulted (default : α) (read? : Document → Option α) : Option Document → Option α
  | none => some default
  | some d => read? d

/-- Reads a text. -/
def text? : Document → Option String
  | .text s => some s
  | _ => none

/-- Reads a value or `null`. -/
def nullable? (read? : Document → Option α) : Document → Option (Option α)
  | .null => some none
  | d => (read? d).map some

/-- Reads an array, item by item. -/
def list? (read? : Document → Option α) : Document → Option (List α)
  | .array items => items.mapM read?
  | _ => none

/-- Reads the members of an object. -/
def entries? (read? : Document → Option α) :
    List (Option String × Document) → Option (List (String × α))
  | [] => some []
  | (none, _) :: _ => none
  | (some name, d) :: ms =>
    match read? d, entries? read? ms with
    | some a, some es => some ((name, a) :: es)
    | _, _ => none

/-- Reads an object as a dictionary; of two members with one name the later one counts. -/
def dict? (read? : Document → Option α) : Document → Option (Dict α)
  | .object members => (entries? read? members).map Dict.ofList
  | _ => none

end RecordCheck.Document

namespace RecordCheck.Json

/-- A dictionary of texts as an object. -/
def ofDict (d : Dict String) : Json :=
  .object (d.entries.map fun e => (e.1, .text e.2))

/-- A text that may be missing, as a member that may be left out. -/
def optionalMember (name : String) : Option String → List (String × Json)
  | none => []
  | some s => [(name, .text s)]

end RecordCheck.Json
