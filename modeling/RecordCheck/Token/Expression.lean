import RecordCheck.Token

/-!
# The extent of an expression

An attribute may set a name to an expression whose value does not matter.
`Token.skipExpression?` drops the expression at the head of a list: it follows operators, casts,
references, calls, indexes, members, paths with type arguments, ranges, blocks and anonymous
functions up to the first part that cannot continue them.  A list that does not begin with an
expression is refused.

Only the extent is found.  What stands between brackets, the parameters of anonymous functions
and the arguments of types are taken as they are, and operators that may not follow one another
(as in `a < b < c`) do.  Of the expressions that begin with a keyword those with `move`, `unsafe`
and the keywords of paths are read; conditions, loops, `match`, `return` and the like are refused.

What remains is never longer than the list (`length_le_of_skipExpression?`).
-/

namespace RecordCheck.Token

/-! ## Parts -/

/-- A part of an expression: a token, or an operator of several joined marks. -/
inductive ExpressionPart where
  | sign (s : String)
  | word (name : String)
  | lifetime
  | literal
  | group (b : Bracket)
  deriving DecidableEq, Repr

/-- The operators of two marks. -/
def doubleSigns : List String :=
  ["::", "..", "->", "=>", "==", "!=", "<=", ">=", "&&", "||", "<<", ">>", "+=", "-=", "*=",
   "/=", "%=", "^=", "&=", "|="]

/-- The operators of three marks. -/
def tripleSigns : List String :=
  ["..=", "<<=", ">>="]

/-- The part at the head of a list, operators as long as they can be, and what follows it. -/
def part? : List Token → Option (ExpressionPart × List Token)
  | [] => none
  | .word name :: ts => some (.word name, ts)
  | .lifetime _ :: ts => some (.lifetime, ts)
  | .text _ _ :: ts => some (.literal, ts)
  | .literal _ :: ts => some (.literal, ts)
  | .group b _ :: ts => some (.group b, ts)
  | .mark a joined :: ts =>
    match joined, ts with
    | true, .mark b joined' :: us =>
      let short :=
        if doubleSigns.contains (String.ofList [a, b]) then (.sign (String.ofList [a, b]), us)
        else (.sign a.toString, ts)
      match joined', us with
      | true, .mark c _ :: vs =>
        if tripleSigns.contains (String.ofList [a, b, c]) then
          some (.sign (String.ofList [a, b, c]), vs)
        else some short
      | _, _ => some short
    | _, _ => some (.sign a.toString, ts)

theorem length_lt_of_part? {ts rest : List Token} {p : ExpressionPart}
    (h : part? ts = some (p, rest)) : rest.length < ts.length := by
  unfold part? at h
  split at h <;> grind

/-! ## Type arguments and parameters -/

/-- The tokens after type arguments of which `depth` angle brackets are open.  The `>` of an
arrow closes none. -/
def skipArguments? : Nat → List Token → Option (List Token)
  | _, [] => none
  | depth, .mark '-' true :: .mark '>' _ :: ts => skipArguments? depth ts
  | depth, .mark '<' _ :: ts => skipArguments? (depth + 1) ts
  | depth, .mark '>' _ :: ts =>
    if depth ≤ 1 then some ts else skipArguments? (depth - 1) ts
  | depth, _ :: ts => skipArguments? depth ts

theorem length_lt_of_skipArguments? {depth : Nat} {ts rest : List Token}
    (h : skipArguments? depth ts = some rest) : rest.length < ts.length := by
  fun_induction skipArguments? depth ts <;> grind

/-- The tokens after the parameters of an anonymous function. -/
def skipParameters? : List Token → Option (List Token)
  | [] => none
  | .mark '|' _ :: ts => some ts
  | _ :: ts => skipParameters? ts

theorem length_lt_of_skipParameters? {ts rest : List Token}
    (h : skipParameters? ts = some rest) : rest.length < ts.length := by
  fun_induction skipParameters? ts <;> grind

/-! ## Expressions -/

/-- What an expression has come to. -/
inductive Expectation where
  /-- An operand follows, perhaps after operators in front of it. -/
  | operand
  /-- An operand follows a reference, perhaps after the word `mut`. -/
  | referent
  /-- The parameters of an anonymous function follow. -/
  | closure
  /-- A block follows. -/
  | block
  /-- An operand may follow, as the end of a range. -/
  | rangeEnd
  /-- A path has been read. -/
  | afterPath
  /-- Another operand has been read. -/
  | afterValue
  /-- The name or the type arguments of a path follow. -/
  | segment
  /-- A type between angle brackets has been read, and the rest of its path follows. -/
  | qualified
  /-- A member of a value follows. -/
  | member
  /-- The brackets after a name and an exclamation mark follow. -/
  | bangArguments
  /-- The type of a cast follows. -/
  | castType
  /-- A path has been read as the type of a cast. -/
  | afterType
  deriving DecidableEq, Repr

/-- What a part does to an expression. -/
inductive Progress where
  | next (e : Expectation)
  /-- The part opens type arguments, after which an expression has come to `e`. -/
  | arguments (e : Expectation)
  /-- The part opens the parameters of an anonymous function. -/
  | parameters
  /-- The expression has ended before the part. -/
  | stop
  | refuse

/-- The operators between two operands. -/
def binarySigns : List String :=
  ["+", "-", "*", "/", "%", "^", "&", "|", "<", ">", "=", "==", "!=", "<=", ">=", "&&", "||",
   "<<", ">>", "+=", "-=", "*=", "/=", "%=", "^=", "&=", "|=", "<<=", ">>=", "..="]

/-- The keywords that are names in the path of a value. -/
def pathWords : List String :=
  ["self", "Self", "super", "crate"]

/-- A part where an operand is expected. -/
def Progress.ofOperand : ExpressionPart → Progress
  | .sign s =>
    if ["-", "!", "*", "||", "..="].contains s then .next .operand
    else
      match s with
      | "&" | "&&" => .next .referent
      | "::" => .next .segment
      | ".." => .next .rangeEnd
      | "|" => .parameters
      | "<" => .arguments .qualified
      | _ => .refuse
  | .word name =>
    if pathWords.contains name || !isKeyword name then .next .afterPath
    else
      match name with
      | "true" | "false" | "_" => .next .afterValue
      | "move" => .next .closure
      | "unsafe" => .next .block
      | _ => .refuse
  | .lifetime => .refuse
  | .literal | .group _ => .next .afterValue

/-- A part after a value. -/
def Progress.ofContinuation : ExpressionPart → Progress
  | .sign s =>
    if binarySigns.contains s then .next .operand
    else
      match s with
      | "." => .next .member
      | ".." => .next .rangeEnd
      | "?" => .next .afterValue
      | _ => .stop
  | .word "as" => .next .castType
  | .group .round | .group .square => .next .afterValue
  | _ => .stop

/-- What the next part does to an expression. -/
def Progress.ofPart : Expectation → ExpressionPart → Progress
  | .operand, p => .ofOperand p
  | .referent, .word "mut" => .next .operand
  | .referent, p => .ofOperand p
  | .closure, .sign "|" => .parameters
  | .closure, .sign "||" => .next .operand
  | .closure, _ => .refuse
  | .block, .group .curly => .next .afterValue
  | .block, _ => .refuse
  | .rangeEnd, .sign "," => .stop
  | .rangeEnd, p => .ofOperand p
  | .afterPath, .sign "::" => .next .segment
  | .afterPath, .sign "!" => .next .bangArguments
  | .afterPath, .group .curly => .next .afterValue
  | .afterPath, p => .ofContinuation p
  | .afterValue, p => .ofContinuation p
  | .segment, .word _ => .next .afterPath
  | .segment, .sign "<" => .arguments .afterPath
  | .segment, _ => .refuse
  | .qualified, .sign "::" => .next .segment
  | .qualified, _ => .refuse
  | .member, .word _ => .next .afterPath
  | .member, .literal => .next .afterValue
  | .member, _ => .refuse
  | .bangArguments, .group _ => .next .afterValue
  | .bangArguments, _ => .refuse
  | .castType, .sign s =>
    if ["&", "&&", "*", "::"].contains s then .next .castType else .refuse
  | .castType, .lifetime => .next .castType
  | .castType, .word name =>
    if ["mut", "const", "dyn"].contains name then .next .castType else .next .afterType
  | .castType, .group _ => .next .afterValue
  | .castType, .literal => .refuse
  | .afterType, .sign "<" => .arguments .afterPath
  | .afterType, .sign "::" => .next .castType
  | .afterType, p => .ofContinuation p

/-- Can an expression end here? -/
def Expectation.mayEnd : Expectation → Bool
  | .rangeEnd | .afterPath | .afterValue | .afterType => true
  | _ => false

/-- The tokens after an expression of which the beginning has been read. -/
def skipFrom? (e : Expectation) (ts : List Token) : Option (List Token) :=
  match hp : part? ts with
  | none => if e.mayEnd then some [] else none
  | some (p, rest) =>
    have _ := length_lt_of_part? hp
    match Progress.ofPart e p with
    | .next e => skipFrom? e rest
    | .arguments e =>
      match ha : skipArguments? 1 rest with
      | some rest' =>
        have _ := length_lt_of_skipArguments? ha
        skipFrom? e rest'
      | none => none
    | .parameters =>
      match ha : skipParameters? rest with
      | some rest' =>
        have _ := length_lt_of_skipParameters? ha
        skipFrom? .operand rest'
      | none => none
    | .stop => some ts
    | .refuse => none
termination_by ts.length

/-- The tokens after the expression at the head of a list. -/
def skipExpression? (ts : List Token) : Option (List Token) :=
  skipFrom? .operand ts

theorem length_le_of_skipFrom? {e : Expectation} {ts rest : List Token}
    (h : skipFrom? e ts = some rest) : rest.length ≤ ts.length := by
  fun_induction skipFrom? e ts <;> grind

/-- What remains after an expression is no longer than the list was. -/
theorem length_le_of_skipExpression? {ts rest : List Token}
    (h : skipExpression? ts = some rest) : rest.length ≤ ts.length :=
  length_le_of_skipFrom? h

end RecordCheck.Token
