import RecordCheck.Json.Basic
import RecordCheck.View

/-!
# Values of fields

The values that fields hold, each with the view that rules see (`Value.view`) and the snapshot
that failures keep (`Value.snapshot`).

A JSON value is a value too.  It has a view of its own (`Json.view`), and its snapshot is itself.
Sets are lists without repetition, in the order of their elements (`Value.textSet`,
`Value.intSet`).
-/

namespace RecordCheck

/-- The key of a map entry. -/
inductive Key where
  | text (s : String)
  | int (n : Int64)
  | bool (b : Bool)
  deriving DecidableEq, Repr, Inhabited

/-- The name that a key has in a snapshot. -/
def Key.name : Key → String
  | .text s => s
  | .int n => String.ofList (Numeral.ofInt n.toInt)
  | .bool true => "true"
  | .bool false => "false"

/-- The value of a field. -/
inductive Value where
  /-- A text. -/
  | text (s : String)
  /-- A signed integer of any width. -/
  | int (n : Int64)
  /-- An unsigned integer of any width. -/
  | uint (n : UInt64)
  /-- A floating-point number of double precision. -/
  | float (x : Double)
  /-- A floating-point number of single precision, given by a double that is rounded to it. -/
  | single (x : Double)
  /-- A truth value. -/
  | bool (b : Bool)
  /-- An optional value that is missing. -/
  | absent
  /-- An optional value that is there. -/
  | present (v : Value)
  /-- A value held by reference. -/
  | shared (v : Value)
  /-- A sequence. -/
  | list (items : List Value)
  /-- A map; of two entries with one key the later one counts. -/
  | map (entries : List (Key × Value))
  /-- A JSON value. -/
  | json (j : Json)
  /-- A value without finer structure: whether it is zero, and what it looks like. -/
  | sealed (isZero : Bool) (content : Json)
  deriving Inhabited

/-- The view of a JSON value: `null` is a missing value, numbers are of the narrowest kind. -/
def Json.view : Json → View
  | .null => .absent
  | .bool b => .bool b
  | .number (.int n) => .int n
  | .number (.uint n) => .uint n
  | .number (.float x) => .float x
  | .text s => .text s
  | .array items => .sequence (UInt64.ofNat items.length)
  | .object members => .map (UInt64.ofNat (Json.memberCount members))

namespace Value

/-- The set of some texts, in their order. -/
def textSet (items : List String) : Value :=
  .list ((Dict.ofList (items.map fun s => (s, ()))).keys.map .text)

/-- The set of some integers, in their order. -/
def intSet (items : List Int64) : Value :=
  .list (((items.mergeSort fun a b => a ≤ b).eraseReps).map .int)

/-- A value without finer structure, which is zero when it equals a given one. -/
def sealedOf (content zero : Json) : Value :=
  .sealed (content == zero) content

/-- The number of different keys of map entries. -/
def entryCount (entries : List (Key × Value)) : Nat :=
  (entries.map Prod.fst).eraseDups.length

/-- What rules see of a value. -/
def view : Value → View
  | .text s => .text s
  | .int n => .int n
  | .uint n => .uint n
  | .float x => .float x
  | .single x => .float x.toSingle
  | .bool b => .bool b
  | .absent => .absent
  | .present v => .present v.view
  | .shared v => v.view
  | .list items => .sequence (UInt64.ofNat items.length)
  | .map entries => .map (UInt64.ofNat (entryCount entries))
  | .json j => j.view
  | .sealed z _ => .sealed z

mutual

/-- The value as JSON, which a failure keeps. -/
def snapshot : Value → Json
  | .text s => .text s
  | .int n => .number (.int n)
  | .uint n => .number (.ofUInt64 n)
  | .float x => .ofDouble x
  | .single x => .ofDouble x.toSingle
  | .bool b => .bool b
  | .absent => .null
  | .present v => v.snapshot
  | .shared v => v.snapshot
  | .list items => .array (snapshots items)
  | .map entries => .object (entrySnapshots entries)
  | .json j => j
  | .sealed _ content => content

/-- The snapshots of the items of a sequence. -/
def snapshots : List Value → List Json
  | [] => []
  | v :: vs => v.snapshot :: snapshots vs

/-- The snapshots of the entries of a map, under the names of their keys. -/
def entrySnapshots : List (Key × Value) → List (String × Json)
  | [] => []
  | (k, v) :: es => (k.name, v.snapshot) :: entrySnapshots es

end

end Value

end RecordCheck
