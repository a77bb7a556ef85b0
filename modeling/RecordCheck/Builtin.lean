import RecordCheck.Format
import RecordCheck.Regex.Parser
import RecordCheck.Text.Replace
import RecordCheck.Text.Split
import RecordCheck.View

/-!
# Built-in rules

* `Builtin` — the rules that are always there, with their names (`Builtin.name`,
  `Builtin.ofName?`) in the order in which they are listed (`Builtin.all`).
* `Builtin.check` — what a rule says of a view that is not optional.
* `Builtin.holds` — what it says of any view.  Rules see through optional values: `required` asks
  whether the value is there, every other rule is content with a missing value and looks at the
  value inside otherwise.

Rules about the form of a text accept nothing but texts, and are content with the empty text:
to reject a blank field is the business of `required`.  A rule with a numeric parameter fails
when the parameter is not a number.
-/

namespace RecordCheck

/-- The built-in rules. -/
inductive Builtin where
  | required
  | min
  | max
  | len
  | range
  | email
  | phone
  | url
  | ip
  | alpha
  | alphanum
  | numeric
  | number
  | lowercase
  | uppercase
  | contains
  | startswith
  | endswith
  | regex
  | eq
  | ne
  | gt
  | gte
  | lt
  | lte
  | oneof
  | username
  | password
  | idcard
  deriving DecidableEq, Repr, Inhabited

namespace Builtin

/-! ## Names -/

/-- The built-in rules in the order in which they are listed. -/
def all : List Builtin :=
  [.required, .min, .max, .len, .range, .email, .phone, .url, .ip, .alpha, .alphanum, .numeric,
   .number, .lowercase, .uppercase, .contains, .startswith, .endswith, .regex, .eq, .ne, .gt,
   .gte, .lt, .lte, .oneof, .username, .password, .idcard]

/-- The name by which a rule line asks for a rule. -/
def name : Builtin → String
  | .required => "required"
  | .min => "min"
  | .max => "max"
  | .len => "len"
  | .range => "range"
  | .email => "email"
  | .phone => "phone"
  | .url => "url"
  | .ip => "ip"
  | .alpha => "alpha"
  | .alphanum => "alphanum"
  | .numeric => "numeric"
  | .number => "number"
  | .lowercase => "lowercase"
  | .uppercase => "uppercase"
  | .contains => "contains"
  | .startswith => "startswith"
  | .endswith => "endswith"
  | .regex => "regex"
  | .eq => "eq"
  | .ne => "ne"
  | .gt => "gt"
  | .gte => "gte"
  | .lt => "lt"
  | .lte => "lte"
  | .oneof => "oneof"
  | .username => "username"
  | .password => "password"
  | .idcard => "idcard"

/-- The rule that a name asks for. -/
def ofName? : String → Option Builtin
  | "required" => some .required
  | "min" => some .min
  | "max" => some .max
  | "len" => some .len
  | "range" => some .range
  | "email" => some .email
  | "phone" => some .phone
  | "url" => some .url
  | "ip" => some .ip
  | "alpha" => some .alpha
  | "alphanum" => some .alphanum
  | "numeric" => some .numeric
  | "number" => some .number
  | "lowercase" => some .lowercase
  | "uppercase" => some .uppercase
  | "contains" => some .contains
  | "startswith" => some .startswith
  | "endswith" => some .endswith
  | "regex" => some .regex
  | "eq" => some .eq
  | "ne" => some .ne
  | "gt" => some .gt
  | "gte" => some .gte
  | "lt" => some .lt
  | "lte" => some .lte
  | "oneof" => some .oneof
  | "username" => some .username
  | "password" => some .password
  | "idcard" => some .idcard
  | _ => none

theorem nodup_names : (all.map name).Nodup := by
  decide

theorem mem_all (b : Builtin) : b ∈ all := by
  cases b <;> decide

/-- A rule is found under its name. -/
theorem ofName?_name (b : Builtin) : ofName? b.name = some b := by
  cases b <;> rfl

theorem name_of_ofName? {name : String} {b : Builtin} (h : ofName? name = some b) :
    b.name = name := by
  unfold ofName? at h
  split at h <;> cases h <;> rfl

theorem ofName?_eq_none_iff {name : String} :
    ofName? name = none ↔ ∀ b : Builtin, b.name ≠ name := by
  constructor
  · rintro h b rfl
    rw [ofName?_name] at h
    cases h
  · intro h
    cases hb : ofName? name with
    | none => rfl
    | some b => exact absurd (name_of_ofName? hb) (h b)

/-! ## The rules -/

/-- A given value: a text that is not all blank, a collection that is not empty, a number that is
not zero; a truth value is always given. -/
def isGiven : View → Bool
  | .text s => !(Text.trim s.toList).isEmpty
  | .sequence count | .map count => count != 0
  | .absent => false
  | .present _ => true
  | .int n => n != 0
  | .uint n => n != 0
  | .float x => !x.isZero
  | .bool _ => true
  | .sealed z => !z

/-- What the size rules count: the characters of a text, the elements of a collection. -/
def measure? : View → Option UInt64
  | .text s => some (UInt64.ofNat s.length)
  | v => v.count?

/-- Does the comparison of a number with the parameter come out as accepted? -/
def compares (accept : Ordering → Bool) (v : View) (param : List Char) : Bool :=
  ((Number.ofView? v).bind fun n => n.compareParam? param).any accept

/-- The same for the bounds of `min`, `max` and `range`, which are whole numbers for every kind.
What is measured is compared as a signed machine word. -/
def bounds (accept : Ordering → Bool) (v : View) (param : List Char) : Bool :=
  match Numeral.int64? param with
  | none => false
  | some limit =>
    match measure? v with
    | some count => accept (compare count.toInt64.toInt limit.toInt)
    | none => compares accept v param

/-- At least the parameter. -/
def atLeast : View → List Char → Bool := bounds fun o => o != .lt

/-- At most the parameter. -/
def atMost : View → List Char → Bool := bounds fun o => o != .gt

/-- Measures exactly the parameter. -/
def hasLength (v : View) (param : List Char) : Bool :=
  match measure? v, Numeral.uint64? param with
  | some count, some expected => count == expected
  | _, _ => false

/-- Between the two sides of a parameter with one hyphen. -/
def isBetween (v : View) (param : List Char) : Bool :=
  match Text.halves '-' param with
  | some (lo, hi) => atLeast v lo && atMost v hi
  | none => false

/-- Equal to the parameter: as texts, or as numbers. -/
def isEqual (v : View) (param : List Char) : Bool :=
  match v with
  | .text s => s.toList == param
  | v => compares (· == .eq) v param

/-- Different from the parameter: as texts, or as numbers. -/
def isUnequal (v : View) (param : List Char) : Bool :=
  match v with
  | .text s => s.toList != param
  | v => compares (· != .eq) v param

/-- A text that is empty or passes a test. -/
def textPasses (test : List Char → Bool) : View → Bool
  | .text s => s.isEmpty || test s.toList
  | _ => false

/-- A number of an address group: at most 255. -/
def isOctet (group : List Char) : Bool :=
  match Numeral.natural? group with
  | some n => n ≤ 255
  | none => false

/-- Does the text match the pattern that the parameter writes? -/
def matchesPattern (param : List Char) (s : List Char) : Bool :=
  match Regex.parse? (String.ofList param) with
  | some r => r.isMatch s
  | none => false

/-- Is the text one of the words of the parameter, which stand between single spaces? -/
def isWordOf (param : List Char) (s : List Char) : Bool :=
  (param.splitOn ' ').any (· == s)

/-- A text that is empty or one of the words of the parameter, or an integer whose decimal text
is one of them. -/
def isOneOf (v : View) (param : List Char) : Bool :=
  match v with
  | .text s => s.isEmpty || isWordOf param s.toList
  | v => ((Number.ofView? v).bind Number.decimal?).any (isWordOf param)

/-- The length of a password when the parameter does not say. -/
def defaultPasswordLength : Nat := 6

/-- A text of at least the given length with an ASCII letter and an ASCII digit. -/
def isPassword (v : View) (param : List Char) : Bool :=
  match if param.isEmpty then some defaultPasswordLength
    else (Numeral.uint64? param).map UInt64.toNat with
  | none => false
  | some least =>
    textPasses (fun s =>
      least ≤ s.length && s.any CharTest.asciiLetter && s.any CharTest.asciiDigit) v

/-- What a rule says of a view; only `required` is asked about optional ones. -/
def check (b : Builtin) (v : View) (param : List Char) : Bool :=
  match b with
  | .required => isGiven v
  | .min => atLeast v param
  | .max => atMost v param
  | .len => hasLength v param
  | .range => isBetween v param
  | .email => textPasses Format.email.accepts v
  | .phone => textPasses Format.phone.accepts v
  | .url => textPasses Format.url.accepts v
  | .ip => textPasses (fun s => Format.ip.accepts s && (s.splitOn '.').all isOctet) v
  | .alpha => textPasses Format.alpha.accepts v
  | .alphanum => textPasses Format.alphaNum.accepts v
  | .numeric => textPasses Format.numeric.accepts v
  | .number => textPasses Format.number.accepts v
  | .lowercase => textPasses Text.isLowercase v
  | .uppercase => textPasses Text.isUppercase v
  | .contains => v.text?.any fun s => Text.contains param s.toList
  | .startswith => textPasses (fun s => param.isPrefixOf s) v
  | .endswith => textPasses (fun s => param.isSuffixOf s) v
  | .regex => textPasses (matchesPattern param) v
  | .eq => isEqual v param
  | .ne => isUnequal v param
  | .gt => compares (· == .gt) v param
  | .gte => compares (· != .lt) v param
  | .lt => compares (· == .lt) v param
  | .lte => compares (· != .gt) v param
  | .oneof => isOneOf v param
  | .username => textPasses Format.username.accepts v
  | .password => isPassword v param
  | .idcard => textPasses Format.idCard.accepts v

/-- What a rule says of any view.  Every rule but `required` is content with a missing value and
looks at the value inside an optional one. -/
def holds (b : Builtin) (v : View) (param : List Char) : Bool :=
  match v with
  | .absent => b != .required
  | .present inner => if b = .required then true else holds b inner param
  | v => b.check v param

end Builtin

end RecordCheck
