import RecordCheck.Double.Decimal
import RecordCheck.Text.Printable

/-!
# Views of values

Rules do not see a value itself but a view of it: one of nine kinds, with as much of the value
as the kind's rules need.

* `View.kindName` — the name of the kind.
* `View.isZero` — is this the zero of its kind?
* `View.text?`, `View.count?` — the text of a string, the number of elements of a collection.
* `View.describe` — the view as descriptions show it.
* `Number.ofView?` — the number that a view shows.  An optional number is not a number.
* `Number.compareParam?` — how a number compares with the number that a parameter writes.  The
  parameter is read as a number of the same kind, so an integer is never compared with a
  fraction; a negative integer is less than every unsigned number.
* `Number.decimal?` — the decimal text of an integer.

An optional value is either `absent` or `present` with a view inside, which may be optional
again.
-/

namespace RecordCheck

/-- What rules see of a value. -/
inductive View where
  /-- A text. -/
  | text (s : String)
  /-- A signed integer of any width. -/
  | int (n : Int64)
  /-- An unsigned integer of any width. -/
  | uint (n : UInt64)
  /-- A floating-point number of any width. -/
  | float (x : Double)
  /-- A truth value. -/
  | bool (b : Bool)
  /-- A sequence, by the number of its elements. -/
  | sequence (count : UInt64)
  /-- A map, by the number of its entries. -/
  | map (count : UInt64)
  /-- An optional value that is missing. -/
  | absent
  /-- An optional value that is there. -/
  | present (inner : View)
  /-- A value of which nothing is known but whether it is zero. -/
  | sealed (isZero : Bool)
  deriving DecidableEq, Repr, Inhabited

namespace View

/-- The name of the kind of a view. -/
def kindName : View → String
  | .text _ => "string"
  | .int _ => "int"
  | .uint _ => "uint"
  | .float _ => "float"
  | .bool _ => "bool"
  | .sequence _ => "sequence"
  | .map _ => "map"
  | .absent | .present _ => "optional"
  | .sealed _ => "opaque"

/-- Is this the zero of its kind?  Only a missing optional value is zero. -/
def isZero : View → Bool
  | .text s => s.isEmpty
  | .int n => n == 0
  | .uint n => n == 0
  | .float x => x.isZero
  | .bool b => !b
  | .sequence count | .map count => count == 0
  | .absent => true
  | .present _ => false
  | .sealed z => z

/-- The text of a string. -/
def text? : View → Option String
  | .text s => some s
  | _ => none

/-- The number of elements of a sequence or entries of a map. -/
def count? : View → Option UInt64
  | .sequence count | .map count => some count
  | _ => none

/-- The view as descriptions show it. -/
def describe : View → String
  | .text s => "Str(" ++ Text.quoted s ++ ")"
  | .int n => "Int(" ++ String.ofList (Numeral.ofInt n.toInt) ++ ")"
  | .uint n => "Uint(" ++ String.ofList (Numeral.ofNat n.toNat) ++ ")"
  | .float x => "Float(" ++ x.text ++ ")"
  | .bool b => "Bool(" ++ (if b then "true" else "false") ++ ")"
  | .sequence count => "Seq(" ++ String.ofList (Numeral.ofNat count.toNat) ++ ")"
  | .map count => "Map(" ++ String.ofList (Numeral.ofNat count.toNat) ++ ")"
  | .absent => "Optional(None)"
  | .present inner => "Optional(Some(" ++ inner.describe ++ "))"
  | .sealed z => "Opaque \x7b is_zero: " ++ (if z then "true" else "false") ++ " \x7d"

end View

/-! ## Numbers -/

/-- A number in the widest representation of its kind. -/
inductive Number where
  | int (n : Int64)
  | uint (n : UInt64)
  | float (x : Double)
  deriving DecidableEq, Repr, Inhabited

namespace Number

/-- The number that a view shows. -/
def ofView? : View → Option Number
  | .int n => some (.int n)
  | .uint n => some (.uint n)
  | .float x => some (.float x)
  | _ => none

/-- How a number compares with the number that a parameter writes; nothing when the parameter
writes no number of that kind, or when one of the two is not a number. -/
def compareParam? (n : Number) (param : List Char) : Option Ordering :=
  match n with
  | .int n => (Numeral.int64? param).map fun p => compare n.toInt p.toInt
  | .uint n =>
    match Numeral.uint64? param with
    | some p => some (compare n.toNat p.toNat)
    | none => (Numeral.int64? param).map fun _ => .gt
  | .float x => (Double.read? param).bind x.compare?

/-- The decimal text of an integer. -/
def decimal? : Number → Option (List Char)
  | .int n => some (Numeral.ofInt n.toInt)
  | .uint n => some (Numeral.ofNat n.toNat)
  | .float _ => none

end Number

end RecordCheck
