/-!
# Tokens of declarations

The text of a declaration — the types of its fields, its parameters, the arguments of its
attributes — is a list of tokens.  Brackets that match hold a list of their own; angle brackets
are marks like any other.

* `Token.compact` — tokens written without any blank between them.
* `Token.pieces` — tokens cut at the commas outside angle brackets.
* `Token.isKeyword` — the words that name nothing.
* `Token.scanPath?` — the path at the head of a list: words with double colons between them, and
  perhaps one in front.  Keywords may stand in a path like any other word.
-/

namespace RecordCheck

/-- The brackets that enclose a list of tokens. -/
inductive Bracket where
  | round
  | square
  | curly
  deriving DecidableEq, Repr, Inhabited

/-- A token of a declaration. -/
inductive Token where
  /-- A name or a keyword.  A name that would be a keyword carries the mark `r#`. -/
  | word (name : String)
  /-- A name after an apostrophe. -/
  | lifetime (name : String)
  /-- A literal for a text, as it was written, and the text. -/
  | text (source value : String)
  /-- Any other literal, as it was written. -/
  | literal (source : String)
  /-- A mark, which is joined when another one follows without a blank. -/
  | mark (c : Char) (joined : Bool)
  | group (b : Bracket) (inner : List Token)
  deriving Inhabited

namespace Bracket

/-- The opening bracket. -/
def left : Bracket → String
  | .round => "("
  | .square => "["
  | .curly => "\x7b"

/-- The closing bracket. -/
def right : Bracket → String
  | .round => ")"
  | .square => "]"
  | .curly => "\x7d"

end Bracket

namespace Token

mutual

/-- A token as it was written. -/
def source : Token → String
  | .word name => name
  | .lifetime name => "'" ++ name
  | .text source _ => source
  | .literal source => source
  | .mark c _ => c.toString
  | .group b inner => b.left ++ sourceAll inner ++ b.right

/-- Tokens as they were written, one right after the other. -/
def sourceAll : List Token → String
  | [] => ""
  | t :: ts => t.source ++ sourceAll ts

end

/-- Tokens written without a space, not even within a literal. -/
def compact (ts : List Token) : String :=
  String.ofList ((sourceAll ts).toList.filter (· ≠ ' '))

/-! ## Lists with commas -/

/-- Puts a token before the first of some pieces. -/
def consPiece (t : Token) : List (List Token) → List (List Token)
  | [] => [[t]]
  | piece :: rest => (t :: piece) :: rest

/-- The pieces of a list between its commas, when the list begins inside `depth` angle brackets.
The `>` of an arrow closes no bracket. -/
def piecesAt (depth : Nat) : List Token → List (List Token)
  | [] => [[]]
  | .mark '-' true :: .mark '>' j :: ts =>
    consPiece (.mark '-' true) (consPiece (.mark '>' j) (piecesAt depth ts))
  | .mark c j :: ts =>
    match c, depth with
    | ',', 0 => [] :: piecesAt 0 ts
    | '<', _ => consPiece (.mark c j) (piecesAt (depth + 1) ts)
    | '>', _ => consPiece (.mark c j) (piecesAt (depth - 1) ts)
    | _, _ => consPiece (.mark c j) (piecesAt depth ts)
  | t :: ts => consPiece t (piecesAt depth ts)

/-- The pieces of a list between the commas outside its angle brackets. -/
def pieces (ts : List Token) : List (List Token) :=
  piecesAt 0 ts

/-! ## Keywords -/

/-- The words that name nothing. -/
def keywords : List String :=
  ["_", "abstract", "as", "async", "await", "become", "box", "break", "const", "continue",
   "crate", "do", "dyn", "else", "enum", "extern", "false", "final", "fn", "for", "if", "impl",
   "in", "let", "loop", "macro", "match", "mod", "move", "mut", "override", "priv", "pub", "ref",
   "return", "Self", "self", "static", "struct", "super", "trait", "true", "try", "type",
   "typeof", "unsafe", "unsized", "use", "virtual", "where", "while", "yield"]

/-- Does a word name nothing? -/
def isKeyword (name : String) : Bool :=
  keywords.contains name

/-! ## Paths -/

/-- The words of a path at the head of a list, and what follows it. -/
def scanSegments? : List Token → Option (List String × List Token)
  | .word name :: .mark ':' true :: .mark ':' _ :: ts =>
    match scanSegments? ts with
    | some (path, rest) => some (name :: path, rest)
    | none => none
  | .word name :: ts => some ([name], ts)
  | _ => none

/-- The path at the head of a list, and what follows it.  A path that begins with a double colon
has an empty first word. -/
def scanPath? (ts : List Token) : Option (List String × List Token) :=
  match ts with
  | .mark ':' true :: .mark ':' _ :: ts =>
    match scanSegments? ts with
    | some (path, rest) => some ("" :: path, rest)
    | none => none
  | _ => scanSegments? ts

theorem length_lt_of_scanSegments? {ts rest : List Token} {path : List String}
    (h : scanSegments? ts = some (path, rest)) : rest.length < ts.length := by
  fun_induction scanSegments? ts generalizing path <;> grind

theorem length_lt_of_scanPath? {ts rest : List Token} {path : List String}
    (h : scanPath? ts = some (path, rest)) : rest.length < ts.length := by
  unfold scanPath? at h
  split at h
  · split at h
    · next hs => grind [length_lt_of_scanSegments? hs]
    · contradiction
  · exact length_lt_of_scanSegments? h

end Token

end RecordCheck
