import RecordCheck.Attribute
import RecordCheck.Record

/-!
# Records derived from declarations

The declaration of a structure lists the entries of a record: its public fields with a rule line
or with the mark that embeds them, in order.  Attributes are read on every field, public or not,
and the first error ends the derivation.

* `Declaration.listing` — the entries of a declaration, and what its parameters must satisfy.
* `Declaration.selfType` — the declared type applied to its own parameters.
* `Listing.bind` — the record that a value makes with a listing.
-/

namespace RecordCheck

/-! ## Declarations -/

/-- Who may see a field. -/
inductive Visibility where
  | owner
  | restricted
  | everyone
  deriving DecidableEq, Repr, Inhabited

/-- The visibility that some tokens say. -/
def Visibility.ofTokens : List Token → Visibility
  | [] => .owner
  | [.word "pub"] => .everyone
  | _ => .restricted

/-- A field of a declaration.  The name is as declared, with the mark of a name that would be a
keyword. -/
structure FieldDeclaration where
  visibility : Visibility
  name : String
  type : List Token
  attributes : List Attribute
  deriving Inhabited

/-- A parameter of a declaration. -/
inductive Parameter where
  | lifetime (name : String)
  /-- A type, or a constant. -/
  | plain (name : String)
  deriving DecidableEq, Repr, Inhabited

/-- The parameters of a declaration, perhaps with a comma after the last one. -/
structure Parameters where
  list : List Parameter
  endsInComma : Bool := false
  deriving DecidableEq, Repr, Inhabited

/-- What is declared. -/
inductive Shape where
  | fields (fields : List FieldDeclaration)
  /-- A structure whose fields have no names. -/
  | nameless
  /-- Something other than a structure. -/
  | other
  deriving Inhabited

/-- A declaration of a type. -/
structure Declaration where
  name : String
  shape : Shape
  parameters : Parameters := ⟨[], false⟩
  /-- The conditions that are written after the declaration. -/
  conditions : List (List Token) := []
  deriving Inhabited

namespace Parameter

/-- The parameter that a piece of a parameter list declares; attributes, bounds and defaults do
not matter. -/
def ofPiece? : List Token → Option Parameter
  | .mark '#' _ :: .group .square _ :: ts => ofPiece? ts
  | .lifetime name :: _ => some (.lifetime name)
  | .word "const" :: .word name :: _ => some (.plain name)
  | .word name :: _ => some (.plain name)
  | _ => none

/-- A parameter as an argument. -/
def text : Parameter → String
  | .lifetime name => "'" ++ name
  | .plain name => name

/-- Does the parameter stand for a lifetime? -/
def isLifetime : Parameter → Bool
  | .lifetime _ => true
  | .plain _ => false

end Parameter

/-- Pieces between commas without the empty one after the last comma, and whether there was
one. -/
def Token.dropEmptyEnd (pieces : List (List Token)) : List (List Token) × Bool :=
  match pieces.getLast? with
  | some [] => (pieces.dropLast, decide (2 ≤ pieces.length))
  | _ => (pieces, false)

namespace Parameters

/-- The parameters that a list in angle brackets declares. -/
def ofTokens? : List Token → Option Parameters
  | [] => some ⟨[], false⟩
  | .mark '<' _ :: ts =>
    let pieces := Token.dropEmptyEnd (Token.pieces ts.dropLast)
    (pieces.1.mapM Parameter.ofPiece?).map fun list => ⟨list, pieces.2⟩
  | _ => none

/-- The parameters with the commas after them. -/
def withCommas (ps : Parameters) : List (Parameter × Bool) :=
  ps.list.zipIdx.map fun p => (p.1, ps.endsInComma || p.2 + 1 < ps.list.length)

/-- Parameters as arguments, with their commas. -/
def texts (ps : List (Parameter × Bool)) : String :=
  String.join (ps.map fun p => p.1.text ++ if p.2 then "," else "")

/-- The parameters as arguments of their type: lifetimes stand before the others, and each keeps
the comma after it. -/
def arguments (ps : Parameters) : String :=
  let lifetimes := ps.withCommas.filter (·.1.isLifetime)
  let others := ps.withCommas.filter (!·.1.isLifetime)
  let gap := !others.isEmpty && lifetimes.getLast?.any (!·.2)
  if ps.list.isEmpty then ""
  else "<" ++ texts lifetimes ++ (if gap then "," else "") ++ texts others ++ ">"

end Parameters

/-- The conditions that a list after the word `where` states. -/
def Token.conditions? : List Token → Option (List (List Token))
  | [] => some []
  | .word "where" :: ts => some (Token.dropEmptyEnd (Token.pieces ts)).1
  | _ => none

/-- The declared type applied to its own parameters. -/
def Declaration.selfType (d : Declaration) : String :=
  d.name ++ d.parameters.arguments

/-! ## Listings -/

/-- A name without the mark that keeps it from being a keyword. -/
def unmarked (name : String) : String :=
  match name.toList with
  | 'r' :: '#' :: rest => String.ofList rest
  | _ => name

/-- An entry of a listing.  `member` is the field that holds the value, as declared. -/
inductive ListedEntry where
  | field (name : String) (label serialName : Option String) (line member : String)
  | embedded (member : String)
  deriving DecidableEq, Repr, Inhabited

/-- What the type of a listed field must be able to do. -/
inductive Capability where
  /-- It can be viewed, for a field that is checked. -/
  | viewable
  /-- It lists entries, for a field that is embedded. -/
  | record
  deriving DecidableEq, Repr, Inhabited

/-- A demand on the type of a field. -/
structure Demand where
  type : List Token
  capability : Capability
  deriving Inhabited

/-- The entries of a record, the conditions on its parameters that were written and those that
its entries add. -/
structure Listing where
  entries : List ListedEntry
  conditions : List (List Token)
  demands : List Demand
  deriving Inhabited

namespace FieldDeclaration

/-- The entry that a field with these marks makes, if it makes one. -/
def entry? (f : FieldDeclaration) (m : FieldMarks) : Option ListedEntry :=
  if f.visibility = .everyone then
    match m.role with
    | some .embedded => some (.embedded f.name)
    | some (.checked line) =>
      if RuleLine.isSkip line then none
      else some (.field (unmarked f.name) m.label m.serialName line f.name)
    | none => none
  else none

/-- What an entry demands of the type of its field. -/
def demand (f : FieldDeclaration) : ListedEntry → Demand
  | .field .. => ⟨f.type, .viewable⟩
  | .embedded _ => ⟨f.type, .record⟩

/-- The entry of a field, together with its demand. -/
def listed (f : FieldDeclaration) : Except DeriveError (Option (ListedEntry × Demand)) :=
  (FieldMarks.ofAttributes f.attributes).map fun m => (f.entry? m).map fun e => (e, f.demand e)

end FieldDeclaration

/-- The listing of a declaration.  Demands are added only when there are parameters, on which
they could depend. -/
def Declaration.listing (d : Declaration) : Except DeriveError Listing :=
  match d.shape with
  | .nameless => .error .namelessFields
  | .other => .error .noStructure
  | .fields fields =>
    (fields.mapM FieldDeclaration.listed).map fun listed =>
      let listed := listed.filterMap id
      { entries := listed.map (·.1)
        conditions := d.conditions
        demands := if d.parameters.list.isEmpty then [] else listed.map (·.2) }

/-- The record that a value makes with a listing: `value` gives the values of its fields and
`inner` the entries of its embedded records. -/
def Listing.bind (l : Listing) (value : String → Value) (inner : String → List Entry) :
    List Entry :=
  l.entries.map fun
    | .field name label serialName line member =>
      .field ⟨name, label, serialName, line, value member⟩
    | .embedded member => .embedded (inner member)

end RecordCheck
