import RecordCheck.Regex.Basic
import RecordCheck.Regex.Class

/-!
# Reading patterns

`Regex.parse?` reads the usual notation: literals and escapes, classes in brackets with ranges,
set operations and named ASCII classes, anchors, groups (capturing, named, with options),
alternatives, and repetition with the marks `*`, `+`, `?` and counts in braces, greedy or lazy.

Which part of a text a group spans and whether a repetition prefers more or less has no bearing
on whether a pattern matches, so groups and laziness are read and forgotten.

A text is refused when an escape of a letter or digit is unknown, a bracket, brace or group is
not closed, a repetition has nothing to repeat or an empty or backward count, or when it asks to
look around or back.  Patterns too large to be worth running are refused as well; their size is
counted in the characters they test for, not in the memory that running them would take.

Two parts of the notation are not read, so a text that uses them is refused although it is a
pattern: the classes by Unicode property, `\p` and `\P`, whose tables are not here, and the option
that switches Unicode off, `(?-u)`.
-/

namespace RecordCheck.Regex

/-! ## Options -/

/-- The options that a pattern switches on and off within its groups. -/
structure Options where
  ignoreCase : Bool := false
  multiLine : Bool := false
  /-- A carriage return ends a line too. -/
  returns : Bool := false
  dotAll : Bool := false
  spaced : Bool := false
  deriving DecidableEq, Repr, Inhabited

/-- The options with one letter switched.  Switching between greedy and lazy changes nothing,
and neither does asking for Unicode. -/
def Options.set? (o : Options) (letter : Char) (on : Bool) : Option Options :=
  match letter with
  | 'i' => some { o with ignoreCase := on }
  | 'm' => some { o with multiLine := on }
  | 'R' => some { o with returns := on }
  | 's' => some { o with dotAll := on }
  | 'x' => some { o with spaced := on }
  | 'U' => some o
  | 'u' => if on then some o else none
  | _ => none

/-- The letters of an option list up to `:` or `)`, which is kept.  A letter may not occur twice,
and a minus must be followed by a letter. -/
def scanOptions? (seen : List Char) (on : Bool) (o : Options) :
    List Char → Option (Options × List Char)
  | [] => none
  | c :: s =>
    if c = ':' ∨ c = ')' then
      if seen.head? = some '-' then none else some (o, c :: s)
    else if seen.contains c then none
    else if c = '-' then scanOptions? (c :: seen) false o s
    else
      match o.set? c on with
      | some o => scanOptions? (c :: seen) on o s
      | none => none

/-- Drops what a spaced pattern does not mean: blanks, and comments up to the end of the line. -/
def skipSpace (inComment : Bool) : List Char → List Char
  | [] => []
  | c :: s =>
    if inComment then skipSpace (c != '\n') s
    else if Text.isBlank c then skipSpace false s
    else if c = '#' then skipSpace true s
    else c :: s

/-- What is left of a pattern after blanks without meaning. -/
def skip (o : Options) (s : List Char) : List Char :=
  if o.spaced then skipSpace false s else s

/-! ## Escapes -/

/-- What an escape stands for. -/
inductive Escape where
  | char (c : Char)
  | test (p : CharTest)
  | anchor (a : Anchor)

/-- Characters with a meaning of their own, which an escape takes away. -/
def isMeta (c : Char) : Bool :=
  "\\.+*?()|[]\x7b\x7d^$#&-~".contains c

/-- The value of a hexadecimal digit. -/
def hexValue? (c : Char) : Option Nat :=
  if c.isDigit then some (c.toNat - 48)
  else if 'a' ≤ c ∧ c ≤ 'f' then some (c.toNat - 87)
  else if 'A' ≤ c ∧ c ≤ 'F' then some (c.toNat - 55)
  else none

/-- The character with the code point that some hexadecimal digits write. -/
def hexChar? (digits : List Char) : Option Char :=
  if digits = [] ∨ 8 < (digits.dropWhile (· = '0')).length then none
  else
    match digits.mapM hexValue? with
    | some values =>
      let n := values.foldl (fun n d => 16 * n + d) 0
      if n.isValidChar then some (Char.ofNat n) else none
    | none => none

/-- A code point: in braces, or with a fixed number of digits. -/
def scanHex? (width : Nat) : List Char → Option (Escape × List Char)
  | '\x7b' :: s =>
    match s.dropWhile (· ≠ '\x7d') with
    | _ :: rest => (hexChar? (s.takeWhile (· ≠ '\x7d'))).map fun c => (.char c, rest)
    | [] => none
  | s =>
    if s.length < width then none
    else (hexChar? (s.take width)).map fun c => (.char c, s.drop width)

/-- The anchor of a word boundary that may be named in braces. -/
def scanWordBoundary? : List Char → Option (Escape × List Char)
  | '\x7b' :: c :: s =>
    if c.isAlpha ∨ c = '-' then
      let name := (c :: s).takeWhile fun c => c.isAlpha || c == '-'
      match (c :: s).dropWhile fun c => c.isAlpha || c == '-' with
      | '\x7d' :: rest =>
        match String.ofList name with
        | "start" => some (.anchor (.wordStart Text.isWord), rest)
        | "end" => some (.anchor (.wordEnd Text.isWord), rest)
        | "start-half" => some (.anchor (.wordStartHalf Text.isWord), rest)
        | "end-half" => some (.anchor (.wordEndHalf Text.isWord), rest)
        | _ => none
      | _ => none
    else some (.anchor (.wordBoundary Text.isWord), '\x7b' :: c :: s)
  | ['\x7b'] => none
  | s => some (.anchor (.wordBoundary Text.isWord), s)

/-- What follows a backslash. -/
def scanEscape? : List Char → Option (Escape × List Char)
  | [] => none
  | 'x' :: s => scanHex? 2 s
  | 'u' :: s => scanHex? 4 s
  | 'U' :: s => scanHex? 8 s
  | 'a' :: s => some (.char '\x07', s)
  | 'f' :: s => some (.char '\x0c', s)
  | 't' :: s => some (.char '\t', s)
  | 'n' :: s => some (.char '\n', s)
  | 'r' :: s => some (.char '\r', s)
  | 'v' :: s => some (.char '\x0b', s)
  | 'A' :: s => some (.anchor .textStart, s)
  | 'z' :: s => some (.anchor .textEnd, s)
  | 'b' :: s => scanWordBoundary? s
  | 'B' :: s => some (.anchor (.noWordBoundary Text.isWord), s)
  | '<' :: s => some (.anchor (.wordStart Text.isWord), s)
  | '>' :: s => some (.anchor (.wordEnd Text.isWord), s)
  | c :: s =>
    match CharTest.escaped? c with
    | some p => some (.test p, s)
    | none =>
      if isMeta c ∨ (c.toNat < 128 ∧ !c.isAlphanum) then some (.char c, s) else none

/-! ## Classes in brackets -/

/-- An operation between two parts of a class. -/
inductive SetOp where
  | inter
  | diff
  | symmDiff
  deriving DecidableEq, Repr

/-- A class under construction: what stands before the last operation, and the union of the
items since. -/
structure ClassPart where
  left : Option (CharTest × SetOp)
  items : CharTest

/-- The class of what has been read; with case ignored, both sides of an operation stand for all
their case forms. -/
def ClassPart.close (o : Options) (part : ClassPart) : CharTest :=
  let items := part.items.anyCaseIf o.ignoreCase
  match part.left with
  | none => items
  | some (p, .inter) => (p.anyCaseIf o.ignoreCase).inter items
  | some (p, .diff) => (p.anyCaseIf o.ignoreCase).diff items
  | some (p, .symmDiff) => (p.anyCaseIf o.ignoreCase).symmDiff items

/-- Adds an item. -/
def ClassPart.add (part : ClassPart) (p : CharTest) : ClassPart :=
  { part with items := part.items.union p }

/-- Begins the part after an operation. -/
def ClassPart.operate (o : Options) (part : ClassPart) (op : SetOp) : ClassPart :=
  ⟨some (part.close o, op), CharTest.none⟩

/-- A named class after its opening bracket: `:name:]` or `:^name:]`. -/
def scanNamed? : List Char → Option (CharTest × List Char)
  | ':' :: s =>
    let negated := s.head? == some '^'
    let s := if negated then s.tail else s
    match s.dropWhile (· ≠ ':') with
    | ':' :: ']' :: rest =>
      (CharTest.named? (String.ofList (s.takeWhile (· ≠ ':')))).map fun p =>
        (p.complIf negated, rest)
    | _ => none
  | _ => none

/-- One end of a range, or a class of its own. -/
def scanClassItem? : List Char → Option (Escape × List Char)
  | [] => none
  | '\\' :: s => scanEscape? s
  | c :: s => some (.char c, s)

/-- What stands first in brackets: a mark of negation, then hyphens or a closing bracket that are
meant literally. -/
def scanOpening (o : Options) (s : List Char) : Bool × CharTest × List Char :=
  let s := skip o s
  let negated := s.head? == some '^'
  let s := if negated then skip o s.tail else s
  let rest := s.dropWhile (· = '-')
  if rest.length < s.length then (negated, CharTest.single '-', rest)
  else
    match s with
    | ']' :: s => (negated, CharTest.single ']', s)
    | s => (negated, CharTest.none, s)

/-- A class after its opening bracket, up to its closing one.  Fuel beyond the length of the text
is never used. -/
def scanClass? (o : Options) : Nat → Bool → ClassPart → List Char →
    Option (CharTest × List Char)
  | 0, _, _, _ => none
  | fuel + 1, negated, part, s =>
    match skip o s with
    | [] => none
    | ']' :: s => some (((part.close o).anyCaseIf o.ignoreCase).complIf negated, s)
    | '&' :: '&' :: s => scanClass? o fuel negated (ClassPart.operate o part .inter) s
    | '-' :: '-' :: s => scanClass? o fuel negated (ClassPart.operate o part .diff) s
    | '~' :: '~' :: s => scanClass? o fuel negated (ClassPart.operate o part .symmDiff) s
    | '[' :: s =>
      match scanNamed? s with
      | some (p, s) => scanClass? o fuel negated (part.add p) s
      | none =>
        let opening := scanOpening o s
        match scanClass? o fuel opening.1 ⟨none, opening.2.1⟩ opening.2.2 with
        | some (p, s) => scanClass? o fuel negated (part.add p) s
        | none => none
    | s =>
      match scanClassItem? s with
      | none => none
      | some (first, s) =>
        match skip o s with
        | '-' :: s' =>
          match first, skip o s' with
          | .char c, ']' :: _ | .char c, '-' :: _ =>
            scanClass? o fuel negated (part.add (.single c)) ('-' :: s')
          | .test p, ']' :: _ | .test p, '-' :: _ =>
            scanClass? o fuel negated (part.add p) ('-' :: s')
          | .char c, s =>
            match scanClassItem? s with
            | some (.char d, s) =>
              if c ≤ d then scanClass? o fuel negated (part.add (.range c d)) s else none
            | _ => none
          | _, _ => none
        | s =>
          match first with
          | .char c => scanClass? o fuel negated (part.add (.single c)) s
          | .test p => scanClass? o fuel negated (part.add p) s
          | .anchor _ => none

/-! ## Repetition -/

/-- A number in a count, with blanks around it. -/
def scanCount? (s : List Char) : Option Nat × List Char :=
  let s := s.dropWhile Text.isBlank
  let digits := s.takeWhile Char.isDigit
  let value := digits.foldl (fun n c => 10 * n + (c.toNat - 48)) 0
  (if digits = [] ∨ UInt32.size ≤ value then none else some value,
    (s.dropWhile Char.isDigit).dropWhile Text.isBlank)

/-- A count after its opening brace: how often at least and at most, and what follows. -/
def scanCounts? (s : List Char) : Option (Nat × Option Nat × List Char) :=
  match scanCount? s with
  | (some n, '\x7d' :: s) => some (n, some n, s)
  | (some n, ',' :: '\x7d' :: s) => some (n, none, s)
  | (some n, ',' :: s) =>
    match scanCount? s with
    | (some m, '\x7d' :: s) => if n ≤ m then some (n, some m, s) else none
    | _ => none
  | _ => none

/-- The mark of a lazy repetition has no bearing on matching. -/
def skipLazy : List Char → List Char
  | '?' :: s => s
  | s => s

/-- A repetition at the head of a text, as a change of the pattern before it. -/
def scanRepetition? : List Char → Option (Option ((Regex → Regex) × List Char))
  | '*' :: s => some (some (zeroOrMore, skipLazy s))
  | '+' :: s => some (some (oneOrMore, skipLazy s))
  | '?' :: s => some (some (optional, skipLazy s))
  | '\x7b' :: s =>
    match scanCounts? s with
    | some (n, m, s) => some (some (fun r => .times r n m, skipLazy s))
    | none => some none
  | _ => none

/-! ## Groups and alternatives -/

/-- A part of a sequence: a pattern, or a change of options, which cannot be repeated. -/
abbrev Part := Option Regex

/-- The pattern of a sequence, its parts in reverse. -/
def ofParts (parts : List Part) : Regex :=
  sequence (parts.reverse.filterMap id)

/-- The pattern of alternatives, in reverse. -/
def ofAlternatives (parts : List Part) : List Regex → Regex
  | [] => ofParts parts
  | r :: rs => .alt (ofAlternatives [some r] rs) (ofParts parts)

/-- The name of a group up to its closing angle bracket. -/
def scanGroupName? (s : List Char) : Option (String × List Char) :=
  let name := s.takeWhile (· ≠ '>')
  let continues (c : Char) : Bool := Text.isWord c || c == '.' || c == '[' || c == ']'
  let starts (c : Char) : Bool := Text.isWord c && !Text.isDecimal c
  match s.dropWhile (· ≠ '>') with
  | _ :: rest =>
    if name.head?.any starts ∧ name.all continues then some (String.ofList name, rest) else none
  | [] => none

/-- How a group opens. -/
inductive Opening where
  /-- A group with a name, if it has one, and its options. -/
  | group (name : Option String) (o : Options)
  /-- New options for the rest of the enclosing group. -/
  | options (o : Options)

/-- The opening of a group after its parenthesis. -/
def scanGroup? (o : Options) (s : List Char) : Option (Opening × List Char) :=
  match s with
  | '?' :: '=' :: _ | '?' :: '!' :: _ | '?' :: '<' :: '=' :: _ | '?' :: '<' :: '!' :: _ => none
  | '?' :: 'P' :: '<' :: s | '?' :: '<' :: s =>
    (scanGroupName? s).map fun r => (.group (some r.1) o, r.2)
  | '?' :: s =>
    match scanOptions? [] true o s with
    | some (o', ':' :: rest) => some (.group none o', rest)
    | some (o', ')' :: rest) => if s.head? = some ')' then none else some (.options o', rest)
    | _ => none
  | s => some (.group none o, s)

/-- The pattern of an escape or a character. -/
def ofEscape (o : Options) : Escape → Regex
  | .char c => .one ((CharTest.single c).anyCaseIf o.ignoreCase)
  | .test p => .one p
  | .anchor a => .anchor a

/-- The characters that end a line. -/
def Options.lineBreak (o : Options) : CharTest :=
  if o.returns then (CharTest.single '\r').union (.single '\n') else .single '\n'

/-- The beginning of a line, if lines count, or of the text. -/
def Options.start (o : Options) : Anchor :=
  match o.multiLine, o.returns with
  | false, _ => .textStart
  | true, false => .lineStart
  | true, true => .returnLineStart

/-- The end of a line, if lines count, or of the text. -/
def Options.stop (o : Options) : Anchor :=
  match o.multiLine, o.returns with
  | false, _ => .textEnd
  | true, false => .lineEnd
  | true, true => .returnLineEnd

/-- A single character of a pattern that has no meaning beyond its place. -/
def ofChar (o : Options) : Char → Regex
  | '.' => .one (if o.dotAll then fun _ => true else o.lineBreak.compl)
  | '^' => .anchor o.start
  | '$' => .anchor o.stop
  | c => ofEscape o (.char c)

/-- What has been read of a pattern: the alternatives before the last bar and the parts since,
both in reverse, and the names of the groups so far. -/
structure Progress where
  alternatives : List Regex
  parts : List Part
  names : List String

/-- A pattern up to its end or an unmatched closing parenthesis, which is kept; also the names of
the groups so far.  Fuel beyond the length of the text is never used. -/
def scan? : Nat → Options → Progress → List Char → Option (Regex × List String × List Char)
  | 0, _, _, _ => none
  | fuel + 1, o, p, s =>
    match skip o s with
    | [] => some (ofAlternatives p.parts p.alternatives, p.names, [])
    | ')' :: s => some (ofAlternatives p.parts p.alternatives, p.names, ')' :: s)
    | '|' :: s =>
      scan? fuel o ⟨ofParts p.parts :: p.alternatives, [], p.names⟩ s
    | '(' :: s =>
      match scanGroup? o (skip o s) with
      | none => none
      | some (.options o', s) => scan? fuel o' { p with parts := none :: p.parts } s
      | some (.group name o', s) =>
        if name.any p.names.contains then none
        else
          match scan? fuel o' ⟨[], [], name.toList ++ p.names⟩ s with
          | some (r, names, ')' :: s) =>
            scan? fuel o { p with parts := some r :: p.parts, names := names } s
          | _ => none
    | '[' :: s =>
      let opening := scanOpening o s
      match scanClass? o (s.length + 1) opening.1 ⟨none, opening.2.1⟩ opening.2.2 with
      | some (test, s) => scan? fuel o { p with parts := some (.one test) :: p.parts } s
      | none => none
    | '\\' :: s =>
      match scanEscape? s with
      | some (e, s) => scan? fuel o { p with parts := some (ofEscape o e) :: p.parts } s
      | none => none
    | c :: s =>
      match scanRepetition? (c :: s) with
      | some none => none
      | some (some (repeated, s)) =>
        match p.parts with
        | some r :: parts => scan? fuel o { p with parts := some (repeated r) :: parts } s
        | _ => none
      | none => scan? fuel o { p with parts := some (ofChar o c) :: p.parts } s

/-! ## Size -/

/-- How many characters the pattern tests for, with all repetitions written out. -/
def size : Regex → Nat
  | .empty => 1
  | .one _ => 1
  | .anchor _ => 1
  | .seq r s => r.size + s.size
  | .alt r s => r.size + s.size
  | .times r min max => r.size * (max.getD min + 1)

/-- The largest size of a pattern that is worth running. -/
def sizeLimit : Nat := 300000

/-- The pattern that a text writes. -/
def parse? (s : String) : Option Regex :=
  match scan? (s.length + 1) {} ⟨[], [], []⟩ s.toList with
  | some (r, _, []) => if r.size ≤ sizeLimit then some r else none
  | _ => none

end RecordCheck.Regex
