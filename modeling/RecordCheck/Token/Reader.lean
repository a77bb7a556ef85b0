import RecordCheck.Text.Category
import RecordCheck.Token

/-!
# Reading tokens

`Token.read?` reads the text of a part of a declaration.  Blanks and comments stand between
tokens and mean nothing else.  A text is refused when a literal, a comment or a bracket is not
closed, or when a character begins no token.
-/

namespace RecordCheck.Token

/-! ## Blanks and names -/

/-- Blanks between tokens, the two marks of writing direction among them. -/
def isGap (c : Char) : Bool :=
  Text.isBlank c || c = '\u200e' || c = '\u200f'

/-- Drops the rest of a block comment, which may hold others; `depth` of them are open. -/
def skipBlock? : Nat → List Char → Option (List Char)
  | _, [] => none
  | depth, '/' :: '*' :: s => skipBlock? (depth + 1) s
  | depth, '*' :: '/' :: s => if depth ≤ 1 then some s else skipBlock? (depth - 1) s
  | depth, _ :: s => skipBlock? depth s

/-- Can a name begin with the character? -/
def startsName (c : Char) : Bool :=
  Text.isWord c && !Text.isDecimal c

/-- The name at the head of a text, which is empty when none begins there, and what follows. -/
def scanName : List Char → List Char × List Char
  | [] => ([], [])
  | c :: s => if startsName c then (c :: s).span Text.isWord else ([], c :: s)

/-! ## Literals -/

/-- The value of some hexadecimal digits. -/
def hexValue? (digits : List Char) : Option Nat :=
  digits.foldlM (fun n c =>
    if c.isDigit then some (16 * n + (c.toNat - 48))
    else if 'a' ≤ c ∧ c ≤ 'f' then some (16 * n + (c.toNat - 87))
    else if 'A' ≤ c ∧ c ≤ 'F' then some (16 * n + (c.toNat - 55))
    else none) 0

/-- The character with a code point that is written in hexadecimal digits. -/
def hexChar? (digits : List Char) : Option Char :=
  match hexValue? (digits.filter (· ≠ '_')) with
  | some n => if n.isValidChar then some (Char.ofNat n) else none
  | none => none

/-- What is being read of a text literal. -/
inductive TextState where
  /-- Characters that stand for themselves. -/
  | plain
  /-- The digits of a code point, last first, up to the closing brace. -/
  | digits (read : List Char)
  /-- Blanks at the beginning of a line, which a backslash before the line end takes away. -/
  | margin

/-- The characters of a text literal up to its closing quote, and what follows the quote. -/
def scanText? : TextState → List Char → Option (List Char × List Char)
  | _, [] => none
  | .digits read, c :: s =>
    if c = '\x7d' then
      match hexChar? read.reverse, scanText? .plain s with
      | some c, some r => some (c :: r.1, r.2)
      | _, _ => none
    else scanText? (.digits (c :: read)) s
  | .margin, ' ' :: s => scanText? .margin s
  | .margin, '\t' :: s => scanText? .margin s
  | .margin, '\n' :: s => scanText? .margin s
  | .margin, '\r' :: s => scanText? .margin s
  | _, '"' :: s => some ([], s)
  | _, '\\' :: 'u' :: '\x7b' :: s => scanText? (.digits []) s
  | _, '\\' :: 'x' :: a :: b :: s =>
    match hexChar? [a, b], scanText? .plain s with
    | some c, some r => some (c :: r.1, r.2)
    | _, _ => none
  | _, '\\' :: '\n' :: s => scanText? .margin s
  | _, '\\' :: '\r' :: s => scanText? .margin s
  | _, '\\' :: c :: s =>
    match escaped? c, scanText? .plain s with
    | some c, some r => some (c :: r.1, r.2)
    | _, _ => none
  | _, '\r' :: '\n' :: s => (scanText? .plain s).map fun r => ('\n' :: r.1, r.2)
  | _, c :: s => (scanText? .plain s).map fun r => (c :: r.1, r.2)
where
  /-- The character of an escape with one letter. -/
  escaped? : Char → Option Char
    | 'n' => some '\n'
    | 'r' => some '\r'
    | 't' => some '\t'
    | '0' => some '\x00'
    | '\\' => some '\\'
    | '\'' => some '\''
    | '"' => some '"'
    | _ => none

/-- The characters of a literal without escapes up to a quote with `hashes` number signs after
it, and what follows them. -/
def scanRaw? (hashes : Nat) : List Char → Option (List Char × List Char)
  | [] => none
  | c :: s =>
    if c = '"' ∧ s.take hashes = List.replicate hashes '#' then some ([], s.drop hashes)
    else (scanRaw? hashes s).map fun r => (c :: r.1, r.2)

/-- What follows a quoted literal whose quotes are the given character and whose content does
not matter. -/
def skipQuoted? (quote : Char) : List Char → Option (List Char)
  | [] => none
  | '\\' :: _ :: s => skipQuoted? quote s
  | c :: s => if c = quote then some s else skipQuoted? quote s

/-- A literal without escapes after its opening letter. -/
def scanRawText? (s : List Char) : Option (List Char × List Char) :=
  let hashes := (s.takeWhile (· = '#')).length
  match s.drop hashes with
  | '"' :: s => scanRaw? hashes s
  | _ => none

/-- What follows a number: its digits and letters, a point that no name and no other point
follows, and the sign of an exponent. -/
def skipNumber (s : List Char) : List Char :=
  let whole := s.span isNumberChar
  let isHex := whole.1.take 2 = ['0', 'x']
  match whole.2 with
  | '.' :: rest =>
    match rest with
    | c :: _ =>
      if c = '.' ∨ startsName c then '.' :: rest
      else
        let part := rest.span isNumberChar
        skipExponent isHex part.1 part.2
    | [] => []
  | rest => skipExponent isHex whole.1 rest
where
  /-- The characters of a number on either side of its point. -/
  isNumberChar (c : Char) : Bool := c.isAlphanum || c = '_'
  /-- What follows the exponent, when the digits before it ended in the letter for one. -/
  skipExponent (isHex : Bool) (before : List Char) : List Char → List Char
    | sign :: s =>
      if !isHex && (before.getLast? = some 'e' || before.getLast? = some 'E')
          && (sign = '+' || sign = '-') then
        s.dropWhile isNumberChar
      else sign :: s
    | [] => []

/-! ## Lexemes -/

/-- A token without inner ones, or a bracket. -/
inductive Lexeme where
  | token (t : Token)
  | opening (b : Bracket)
  | closing (b : Bracket)

/-- The characters that are marks. -/
def isMark (c : Char) : Bool :=
  "~!@#$%^&*-=+|;:,<.>/?".contains c

/-- Does a mark that is no comment begin the text? -/
def startsMark : List Char → Bool
  | '/' :: c :: _ => c ≠ '/' && c ≠ '*'
  | c :: _ => isMark c
  | [] => false

/-- The text before a suffix of itself. -/
def before (s rest : List Char) : String :=
  String.ofList (s.take (s.length - rest.length))

/-- A text literal: its characters are known, and letters right after it belong to it. -/
def textLexeme (s : List Char) (r : List Char × List Char) : Lexeme × List Char :=
  let rest := (scanName r.2).2
  (.token (.text (before s rest) (String.ofList r.1)), rest)

/-- Another literal, with the letters right after it. -/
def literalLexeme (s rest : List Char) : Lexeme × List Char :=
  let rest := (scanName rest).2
  (.token (.literal (before s rest)), rest)

/-- The name at the head of a text. -/
def nameLexeme? (s : List Char) : Option (Lexeme × List Char) :=
  match scanName s with
  | ([], _) => none
  | (name, rest) => some (.token (.word (String.ofList name)), rest)

/-- A name with the mark that keeps it from being a keyword, or a text without escapes. -/
def rawLexeme? (s : List Char) : Option (Lexeme × List Char) :=
  match s.drop 1 with
  | '#' :: rest =>
    match scanName rest with
    | ([], _) => (scanRawText? ('#' :: rest)).map (textLexeme s)
    | (name, rest) => some (.token (.word ("r#" ++ String.ofList name)), rest)
  | '"' :: rest => (scanRawText? ('"' :: rest)).map (textLexeme s)
  | _ => nameLexeme? s

/-- A character, or a name after an apostrophe. -/
def apostropheLexeme? (s : List Char) : Option (Lexeme × List Char) :=
  match s.drop 1 with
  | '\\' :: _ => (skipQuoted? '\'' (s.drop 1)).map (literalLexeme s)
  | _ :: '\'' :: rest => some (literalLexeme s rest)
  | rest =>
    match scanName rest with
    | ([], _) => none
    | (name, rest) => some (.token (.lifetime (String.ofList name)), rest)

/-- The lexeme at the head of a text that begins neither with a blank nor with a comment, and
what follows it. -/
def lexeme? (s : List Char) : Option (Lexeme × List Char) :=
  match s with
  | [] => none
  | '(' :: rest => some (.opening .round, rest)
  | '[' :: rest => some (.opening .square, rest)
  | '\x7b' :: rest => some (.opening .curly, rest)
  | ')' :: rest => some (.closing .round, rest)
  | ']' :: rest => some (.closing .square, rest)
  | '\x7d' :: rest => some (.closing .curly, rest)
  | '"' :: rest => (scanText? .plain rest).map (textLexeme s)
  | 'r' :: _ => rawLexeme? s
  | 'b' :: '"' :: rest => (skipQuoted? '"' rest).map (literalLexeme s)
  | 'c' :: '"' :: rest => (skipQuoted? '"' rest).map (literalLexeme s)
  | 'b' :: '\'' :: rest => (skipQuoted? '\'' rest).map (literalLexeme s)
  | 'b' :: 'r' :: '"' :: _ => (scanRawText? (s.drop 2)).map fun r => literalLexeme s r.2
  | 'b' :: 'r' :: '#' :: _ => (scanRawText? (s.drop 2)).map fun r => literalLexeme s r.2
  | 'c' :: 'r' :: '"' :: _ => (scanRawText? (s.drop 2)).map fun r => literalLexeme s r.2
  | 'c' :: 'r' :: '#' :: _ => (scanRawText? (s.drop 2)).map fun r => literalLexeme s r.2
  | '\'' :: _ => apostropheLexeme? s
  | c :: rest =>
    if c.isDigit then some (literalLexeme s (skipNumber s))
    else if isMark c then some (.token (.mark c (startsMark rest)), rest)
    else nameLexeme? s

/-- The lexemes of a text.  Fuel beyond the length of the text is never used. -/
def lexemes? : Nat → List Char → Option (List Lexeme)
  | 0, s => if s.isEmpty then some [] else none
  | fuel + 1, s =>
    match s with
    | [] => some []
    | '/' :: '/' :: s => lexemes? fuel (s.dropWhile (· ≠ '\n'))
    | '/' :: '*' :: s => (skipBlock? 1 s).bind (lexemes? fuel)
    | c :: rest =>
      if isGap c then lexemes? fuel rest
      else
        match lexeme? s with
        | some (l, rest) => (lexemes? fuel rest).map (l :: ·)
        | none => none

/-- Puts the lexemes between matching brackets into groups.  `outer` holds the brackets that are
open, the innermost first, each with the tokens before it; `read` holds the tokens after the
innermost one.  Both lists of tokens have their last token first. -/
def assemble? : List (Bracket × List Token) → List Token → List Lexeme → Option (List Token)
  | [], read, [] => some read.reverse
  | _ :: _, _, [] => none
  | outer, read, .token t :: ls => assemble? outer (t :: read) ls
  | outer, read, .opening b :: ls => assemble? ((b, read) :: outer) [] ls
  | [], _, .closing _ :: _ => none
  | (b, before) :: outer, read, .closing b' :: ls =>
    if b = b' then assemble? outer (.group b read.reverse :: before) ls else none

/-- The tokens of a text. -/
def read? (s : String) : Option (List Token) :=
  (lexemes? s.length s.toList).bind (assemble? [] [])

end RecordCheck.Token
