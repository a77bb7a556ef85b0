import RecordCheck.Json.Basic
import RecordCheck.Double.Decimal

/-!
# Writing JSON values

`Json.render` writes a value on one line.  The members of an object are written in the order of
their names, each name once, with the value that counts.
-/

namespace RecordCheck.Json

/-- A hexadecimal digit. -/
def hexChar (n : Nat) : Char :=
  (Nat.toDigits 16 (n % 16)).headD '0'

/-- A character inside a string literal. -/
def escapeChar (c : Char) : List Char :=
  match c with
  | '"' => ['\\', '"']
  | '\\' => ['\\', '\\']
  | '\n' => ['\\', 'n']
  | '\r' => ['\\', 'r']
  | '\t' => ['\\', 't']
  | c =>
    if c.toNat < 0x20 then ['\\', 'u', '0', '0', hexChar (c.toNat / 16), hexChar c.toNat]
    else [c]

/-- A text as a string literal. -/
def quote (s : String) : String :=
  String.ofList ('"' :: s.toList.flatMap escapeChar ++ ['"'])

/-- A number literal. -/
def Number.render : Number → String
  | .int n => String.ofList (Numeral.ofInt n.toInt)
  | .uint n => String.ofList (Numeral.ofNat n.toNat)
  | .float x => x.text

mutual

/-- A value as one line of text. -/
def render : Json → String
  | .null => "null"
  | .bool true => "true"
  | .bool false => "false"
  | .number n => n.render
  | .text s => quote s
  | .array items => "[" ++ ",".intercalate (renderItems items) ++ "]"
  | .object members =>
    let lines := (Dict.ofList (renderMembers members)).entries
    "\x7b" ++ ",".intercalate (lines.map fun e => quote e.1 ++ ":" ++ e.2) ++ "\x7d"

/-- The items of an array. -/
def renderItems : List Json → List String
  | [] => []
  | v :: vs => render v :: renderItems vs

/-- The members of an object. -/
def renderMembers : List (String × Json) → List (String × String)
  | [] => []
  | (name, v) :: ms => (name, render v) :: renderMembers ms

end

end RecordCheck.Json
