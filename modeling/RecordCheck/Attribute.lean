import RecordCheck.Token.Expression

/-!
# Attributes of fields

A field of a declaration carries attributes.  Three of them matter:

    #[validate("required,min=3")]     the rules of the field
    #[validate(embed)]                the field is a record whose fields count as declared here
    #[label("Full name")]             its name in messages
    #[serde(rename = "full_name")]    its serialization name

* `FieldRole.read` — the arguments of `validate`.
* `Attribute.labelText` — the argument of `label`.
* `Attribute.serialName` — the items of `serde`, of which only `rename` says something here.
  Reading stops without complaint at the first item that is malformed.
* `FieldMarks.ofAttributes` — all attributes of a field.  At most one `validate` and one `label`
  are allowed; of several serialization names the last one counts.
-/

namespace RecordCheck

/-- An attribute: its path, and the tokens in parentheses after it, if there are parentheses. -/
structure Attribute where
  path : List Token
  arguments : Option (List Token)
  deriving Inhabited

/-- What is wrong with the arguments of a label. -/
inductive LabelFault where
  | noParentheses
  | nothing
  | noText
  | surplus
  deriving DecidableEq, Repr, Inhabited

/-- Why no record can be derived from a declaration. -/
inductive DeriveError where
  /-- Its fields have no names. -/
  | namelessFields
  /-- It declares no structure. -/
  | noStructure
  | repeatedRole
  | malformedRole
  | unknownRole
  | repeatedLabel
  | malformedLabel (fault : LabelFault)
  deriving DecidableEq, Repr, Inhabited

/-- The message for a label with wrong arguments. -/
def LabelFault.message : LabelFault → String
  | .noParentheses => "expected attribute arguments in parentheses: #[label(...)]"
  | .nothing => "unexpected end of input, expected string literal"
  | .noText => "expected string literal"
  | .surplus => "unexpected token"

/-- The message of an error. -/
def DeriveError.message : DeriveError → String
  | .namelessFields => "Validate derive only supports structs with named fields"
  | .noStructure => "Validate derive only supports structs"
  | .repeatedRole => "duplicate #[validate] attribute"
  | .malformedRole => "expected #[validate(\"rules\")] or #[validate(embed)]"
  | .unknownRole => "unknown validate option, expected `embed`"
  | .repeatedLabel => "duplicate #[label] attribute"
  | .malformedLabel fault => fault.message

/-! ## Rules and labels -/

/-- What a field is to a check. -/
inductive FieldRole where
  /-- It is checked against a rule line. -/
  | checked (line : String)
  /-- It is a record whose fields are checked. -/
  | embedded
  deriving DecidableEq, Repr, Inhabited

/-- The role that the arguments of `validate` give: a single text is a rule line, and the single
word `embed` embeds. -/
def FieldRole.read : Option (List Token) → Except DeriveError FieldRole
  | some [.text _ line] => .ok (.checked line)
  | some [.word name] =>
    if name = "embed" then .ok .embedded
    else if Token.isKeyword name then .error .malformedRole
    else .error .unknownRole
  | _ => .error .malformedRole

/-- The text that the arguments of `label` give, which must be a single text. -/
def Attribute.labelText : Option (List Token) → Except DeriveError String
  | some [.text _ label] => .ok label
  | none => .error (.malformedLabel .noParentheses)
  | some [] => .error (.malformedLabel .nothing)
  | some (.text _ _ :: _ :: _) => .error (.malformedLabel .surplus)
  | some (_ :: _) => .error (.malformedLabel .noText)

/-! ## Serialization names -/

namespace Attribute

/-- The setting `path = "text"` at the head of a list, and what follows it. -/
def scanSetting? (ts : List Token) : Option (List String × String × List Token) :=
  match Token.scanPath? ts with
  | some (path, .mark '=' _ :: .text _ s :: rest) => some (path, s, rest)
  | _ => none

theorem length_lt_of_scanSetting? {ts : List Token} {setting : List String × String × List Token}
    (h : scanSetting? ts = some setting) : setting.2.2.length < ts.length := by
  unfold scanSetting? at h
  split at h
  · next hp =>
    cases h
    grind [Token.length_lt_of_scanPath? hp]
  · contradiction

theorem length_lt_of_scanSetting?_cons {ts rest : List Token} {t : Token}
    {setting : List String × String × List Token} (h : scanSetting? ts = some setting)
    (hr : setting.2.2 = t :: rest) : rest.length < ts.length := by
  have hlt := length_lt_of_scanSetting? h
  rw [hr, List.length_cons] at hlt
  omega

/-- The settings of a renaming that differs between its two sides: the name under which the field
is written, and whether all settings are well formed.  There must be one at least. -/
def readSides (name : Option String) (ts : List Token) : Option String × Bool :=
  match hs : scanSetting? ts with
  | none => (name, false)
  | some setting =>
    let name := if setting.1 = ["serialize"] then some setting.2.1 else name
    match hr : setting.2.2 with
    | [] | [.mark ',' _] => (name, true)
    | .mark ',' _ :: rest =>
      have : rest.length < ts.length := length_lt_of_scanSetting?_cons hs hr
      readSides name rest
    | _ => (name, false)
termination_by ts.length
decreasing_by exact this

/-- One item: the serialization name after it, and the tokens that follow it unless reading stops
there.  An item other than `rename` may be set to an expression or have arguments in
parentheses. -/
def readItem (name : Option String) (ts : List Token) : Option String × Option (List Token) :=
  match Token.scanPath? ts with
  | none => (name, none)
  | some (path, rest) =>
    if path = ["rename"] then
      match rest with
      | .mark '=' _ :: .text _ s :: rest => (some s, some rest)
      | .group .round inner :: rest =>
        match readSides name inner with
        | (name, true) => (name, some rest)
        | (name, false) => (name, none)
      | _ => (name, none)
    else
      match rest with
      | .mark '=' _ :: rest => (name, Token.skipExpression? rest)
      | .group .round _ :: rest => (name, some rest)
      | rest => (name, some rest)

theorem length_lt_of_readItem {name : Option String} {ts rest : List Token}
    (h : (readItem name ts).2 = some rest) : rest.length < ts.length := by
  unfold readItem at h
  split at h
  · contradiction
  · next path tail hp =>
    have ht := Token.length_lt_of_scanPath? hp
    split at h
    · split at h
      · grind
      · split at h <;> grind
      · contradiction
    · split at h
      · grind [Token.length_le_of_skipExpression? h]
      · grind
      · grind

/-- The serialization name after the items of an attribute, which commas separate. -/
def readItems (name : Option String) : List Token → Option String
  | [] => name
  | t :: ts =>
    let item := readItem name (t :: ts)
    match hi : item.2 with
    | some (.mark ',' _ :: rest) =>
      have : rest.length < (t :: ts).length := Nat.lt_of_succ_lt (length_lt_of_readItem hi)
      readItems item.1 rest
    | _ => item.1
termination_by ts => ts.length
decreasing_by exact this

/-- The serialization name after an attribute, given the one before it. -/
def serialName (name : Option String) : Option (List Token) → Option String
  | none => name
  | some ts => readItems name ts

end Attribute

/-! ## All attributes of a field -/

/-- What the attributes of a field say. -/
structure FieldMarks where
  role : Option FieldRole := none
  label : Option String := none
  serialName : Option String := none
  deriving DecidableEq, Repr, Inhabited

namespace FieldMarks

/-- The marks after one more attribute. -/
def add (m : FieldMarks) (a : Attribute) : Except DeriveError FieldMarks :=
  match a.path with
  | [.word "validate"] =>
    if m.role.isSome then .error .repeatedRole
    else (FieldRole.read a.arguments).map fun role => { m with role := some role }
  | [.word "label"] =>
    if m.label.isSome then .error .repeatedLabel
    else (Attribute.labelText a.arguments).map fun label => { m with label := some label }
  | [.word "serde"] => .ok { m with serialName := Attribute.serialName m.serialName a.arguments }
  | _ => .ok m

/-- The marks of all attributes of a field, in order. -/
def ofAttributes (attributes : List Attribute) : Except DeriveError FieldMarks :=
  attributes.foldlM add {}

end FieldMarks

end RecordCheck
