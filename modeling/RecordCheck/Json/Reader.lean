import RecordCheck.Json.Number

/-!
# Reading JSON documents

`Document.parse?` reads a whole text.  It is strict: no comments, no trailing commas, no raw
control characters in strings, nothing after the document but blanks.

Parts that are well formed but stand for no value become `Document.unreadable`: numbers beyond
the doubles, strings with half of a surrogate pair, and containers inside `nestingLimit` others.
-/

namespace RecordCheck

/-! ## Strings -/

/-- A part of a string literal: a character, or a UTF-16 unit that was written as an escape. -/
inductive StringPart where
  | char (c : Char)
  | unit (n : Nat)
  deriving Repr

namespace StringPart

/-- The value of a hexadecimal digit. -/
def hexDigit? (c : Char) : Option Nat :=
  if c.isDigit then some (c.toNat - 48)
  else if 'a' ≤ c ∧ c ≤ 'f' then some (c.toNat - 87)
  else if 'A' ≤ c ∧ c ≤ 'F' then some (c.toNat - 55)
  else none

/-- The unit written by four hexadecimal digits. -/
def hexUnit? (a b c d : Char) : Option Nat :=
  match hexDigit? a, hexDigit? b, hexDigit? c, hexDigit? d with
  | some a, some b, some c, some d => some (((a * 16 + b) * 16 + c) * 16 + d)
  | _, _, _, _ => none

/-- The character of an escape with one letter. -/
def escaped? : Char → Option Char
  | '"' => some '"'
  | '\\' => some '\\'
  | '/' => some '/'
  | 'b' => some '\x08'
  | 'f' => some '\x0c'
  | 'n' => some '\n'
  | 'r' => some '\r'
  | 't' => some '\t'
  | _ => none

/-- The parts of a string literal up to its closing quote, and what follows the quote. -/
def scan? : List Char → Option (List StringPart × List Char)
  | [] => none
  | '"' :: s => some ([], s)
  | '\\' :: 'u' :: a :: b :: c :: d :: s =>
    match hexUnit? a b c d, scan? s with
    | some n, some r => some (.unit n :: r.1, r.2)
    | _, _ => none
  | '\\' :: e :: s =>
    match escaped? e, scan? s with
    | some c, some r => some (.char c :: r.1, r.2)
    | _, _ => none
  | c :: s =>
    if c.toNat < 0x20 ∨ c = '\\' then none
    else (scan? s).map fun r => (.char c :: r.1, r.2)

/-- The characters of the parts.  A first and a second half of a surrogate pair, one right after
the other, are one character; a half alone is none. -/
def chars? : List StringPart → Option (List Char)
  | [] => some []
  | .char c :: ps => (chars? ps).map (c :: ·)
  | .unit m :: ps =>
    if m < 0xd800 ∨ 0xdfff < m then (chars? ps).map (Char.ofNat m :: ·)
    else if m < 0xdc00 then
      match ps with
      | .unit n :: ps =>
        if 0xdc00 ≤ n ∧ n ≤ 0xdfff then
          (chars? ps).map (Char.ofNat (0x10000 + (m - 0xd800) * 0x400 + (n - 0xdc00)) :: ·)
        else none
      | _ => none
    else none

/-- The text of the parts. -/
def text? (parts : List StringPart) : Option String :=
  (chars? parts).map String.ofList

end StringPart

/-! ## Documents -/

namespace Document

/-- How many containers the reader follows into one another. -/
def nestingLimit : Nat := 127

/-- Drops the blanks between tokens. -/
def skipBlanks (s : List Char) : List Char :=
  s.dropWhile fun c => c = ' ' || c = '\n' || c = '\t' || c = '\r'

/-- A container that stands inside `level` others. -/
def atLevel (level : Nat) (d : Document) : Document :=
  if level < nestingLimit then d else .unreadable

/-- A number literal as a document. -/
def scanNumber? (s : List Char) : Option (Document × List Char) :=
  (NumberText.scan? s).map fun r =>
    (match r.1.number? with
      | some n => .number n
      | none => .unreadable, r.2)

/-- A string literal after its opening quote, as a document. -/
def scanText? (s : List Char) : Option (Document × List Char) :=
  (StringPart.scan? s).map fun r =>
    (match StringPart.text? r.1 with
      | some t => .text t
      | none => .unreadable, r.2)

mutual

/-- The document at the head of a text, and what follows it.  Fuel beyond twice the length of
the text is never used. -/
def scan? : Nat → Nat → List Char → Option (Document × List Char)
  | 0, _, _ => none
  | fuel + 1, level, s =>
    match skipBlanks s with
    | '"' :: s => scanText? s
    | '[' :: s =>
      match skipBlanks s with
      | ']' :: s => some (atLevel level (.array []), s)
      | s => (scanItems? fuel (level + 1) s).map fun r => (atLevel level (.array r.1), r.2)
    | '{' :: s =>
      match skipBlanks s with
      | '}' :: s => some (atLevel level (.object []), s)
      | s => (scanMembers? fuel (level + 1) s).map fun r => (atLevel level (.object r.1), r.2)
    | 'n' :: 'u' :: 'l' :: 'l' :: s => some (.null, s)
    | 't' :: 'r' :: 'u' :: 'e' :: s => some (.bool true, s)
    | 'f' :: 'a' :: 'l' :: 's' :: 'e' :: s => some (.bool false, s)
    | s => scanNumber? s

/-- The items of an array up to its closing bracket. -/
def scanItems? : Nat → Nat → List Char → Option (List Document × List Char)
  | 0, _, _ => none
  | fuel + 1, level, s =>
    match scan? fuel level s with
    | none => none
    | some (d, s) =>
      match skipBlanks s with
      | ']' :: s => some ([d], s)
      | ',' :: s => (scanItems? fuel level s).map fun r => (d :: r.1, r.2)
      | _ => none

/-- The members of an object up to its closing brace. -/
def scanMembers? : Nat → Nat → List Char → Option (List (Option String × Document) × List Char)
  | 0, _, _ => none
  | fuel + 1, level, s =>
    match skipBlanks s with
    | '"' :: s =>
      match StringPart.scan? s with
      | none => none
      | some (name, s) =>
        match skipBlanks s with
        | ':' :: s =>
          match scan? fuel level s with
          | none => none
          | some (d, s) =>
            match skipBlanks s with
            | '}' :: s => some ([(StringPart.text? name, d)], s)
            | ',' :: s =>
              (scanMembers? fuel level s).map fun r => ((StringPart.text? name, d) :: r.1, r.2)
            | _ => none
        | _ => none
    | _ => none

end

/-- The document that a whole text says. -/
def parse? (s : String) : Option Document :=
  match scan? (2 * s.length + 2) 0 s.toList with
  | some (d, rest) => if skipBlanks rest = [] then some d else none
  | none => none

end Document

namespace Json

/-- The value that a whole text says. -/
def parse? (s : String) : Option Json :=
  (Document.parse? s).bind Document.value?

end Json

end RecordCheck
