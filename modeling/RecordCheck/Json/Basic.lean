import RecordCheck.Dict
import RecordCheck.Double.Basic

/-!
# JSON values and documents

Two kinds of tree stand for JSON.

* `Json` — a value: what snapshots, payloads and written configurations are made of.  Among
  members with one name the last one counts (`Json.member?`, `Json.memberCount`).
* `Document` — what a text says before anyone asks for its meaning.  A document may hold parts
  that are well formed but stand for no value (`Document.unreadable`): a number beyond the
  doubles, an escape for half of a surrogate pair, or nesting deeper than the reader follows.
  A reader of a known shape steps over such parts when it does not need them.

`Document.value?` is the value of a document and `Json.document` is the document of a value;
the first undoes the second (`value?_document`).
-/

namespace RecordCheck

/-- A JSON number: a signed word when it fits, else an unsigned word, else a finite double. -/
inductive Json.Number where
  | int (n : Int64)
  | uint (n : UInt64)
  | float (x : Double)
  deriving DecidableEq, Repr, Inhabited

/-- A JSON value.  The members of an object are in the order in which they were written. -/
inductive Json where
  | null
  | bool (b : Bool)
  | number (n : Json.Number)
  | text (s : String)
  | array (items : List Json)
  | object (members : List (String × Json))
  deriving Repr, Inhabited

/-- A JSON document.  A member whose name is unreadable has none. -/
inductive Document where
  | null
  | bool (b : Bool)
  | number (n : Json.Number)
  | text (s : String)
  | array (items : List Document)
  | object (members : List (Option String × Document))
  | unreadable
  deriving Inhabited

/-! ## Values -/

namespace Json

/-- An unsigned word as a number; it is a signed one when it fits. -/
def Number.ofUInt64 (n : UInt64) : Number :=
  if n.toNat < 0x8000000000000000 then .int (Int64.ofNat n.toNat) else .uint n

/-- The double nearest to a number. -/
def Number.double : Number → Double
  | .int n => .ofRatio (n < 0) n.toInt.natAbs 1
  | .uint n => .ofNat n.toNat
  | .float x => x

/-- A double as a value.  JSON has no infinities and no NaN; they become `null`. -/
def ofDouble (x : Double) : Json :=
  if x.isFinite then .number (.float x) else .null

/-- The kind of a value, as error messages name it. -/
def kindName : Json → String
  | .null => "null"
  | .bool _ => "bool"
  | .number _ => "number"
  | .text _ => "string"
  | .array _ => "array"
  | .object _ => "object"

/-- The value of the last member with a name. -/
def member? (members : List (String × Json)) (name : String) : Option Json :=
  (Dict.ofList members).get? name

/-- The number of different names among members. -/
def memberCount (members : List (String × Json)) : Nat :=
  (Dict.ofList members).size

mutual

/-- Equality of values, member by member in the order written. -/
def beq : Json → Json → Bool
  | .null, .null => true
  | .bool a, .bool b => a == b
  | .number a, .number b => a == b
  | .text a, .text b => a == b
  | .array a, .array b => beqItems a b
  | .object a, .object b => beqMembers a b
  | _, _ => false

/-- Equality of lists of values. -/
def beqItems : List Json → List Json → Bool
  | [], [] => true
  | a :: as, b :: bs => beq a b && beqItems as bs
  | _, _ => false

/-- Equality of lists of members. -/
def beqMembers : List (String × Json) → List (String × Json) → Bool
  | [], [] => true
  | (m, a) :: as, (n, b) :: bs => m == n && beq a b && beqMembers as bs
  | _, _ => false

end

instance : BEq Json := ⟨beq⟩

mutual

/-- The document that says just this value. -/
def document : Json → Document
  | .null => .null
  | .bool b => .bool b
  | .number n => .number n
  | .text s => .text s
  | .array items => .array (documents items)
  | .object members => .object (memberDocuments members)

/-- The documents of a list of values. -/
def documents : List Json → List Document
  | [] => []
  | v :: vs => document v :: documents vs

/-- The documents of a list of members. -/
def memberDocuments : List (String × Json) → List (Option String × Document)
  | [] => []
  | (name, v) :: ms => (some name, document v) :: memberDocuments ms

end

end Json

/-! ## Documents -/

namespace Document

mutual

/-- The value of a document, if every part of it stands for one. -/
def value? : Document → Option Json
  | .null => some .null
  | .bool b => some (.bool b)
  | .number n => some (.number n)
  | .text s => some (.text s)
  | .array items => (values? items).map .array
  | .object members => (memberValues? members).map .object
  | .unreadable => none

/-- The values of a list of documents. -/
def values? : List Document → Option (List Json)
  | [] => some []
  | d :: ds =>
    match value? d, values? ds with
    | some v, some vs => some (v :: vs)
    | _, _ => none

/-- The values of a list of members. -/
def memberValues? : List (Option String × Document) → Option (List (String × Json))
  | [] => some []
  | (some name, d) :: ms =>
    match value? d, memberValues? ms with
    | some v, some vs => some ((name, v) :: vs)
    | _, _ => none
  | (none, _) :: _ => none

end

mutual

/-- A value is what its document says. -/
theorem value?_document : ∀ v : Json, v.document.value? = some v
  | .null => rfl
  | .bool _ => rfl
  | .number _ => rfl
  | .text _ => rfl
  | .array items => by simp [Json.document, value?, values?_documents items]
  | .object members => by simp [Json.document, value?, memberValues?_memberDocuments members]

theorem values?_documents : ∀ vs : List Json, values? (Json.documents vs) = some vs
  | [] => rfl
  | v :: vs => by simp [Json.documents, values?, value?_document v, values?_documents vs]

theorem memberValues?_memberDocuments :
    ∀ ms : List (String × Json), memberValues? (Json.memberDocuments ms) = some ms
  | [] => rfl
  | (name, v) :: ms => by
    simp [Json.memberDocuments, memberValues?, value?_document v,
      memberValues?_memberDocuments ms]

end

end Document

end RecordCheck
