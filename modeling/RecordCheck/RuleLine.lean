import RecordCheck.Text.Blank
import RecordCheck.Text.Split

/-!
# Rule lines

A rule line lists the rules of a field, separated by commas, each a name that may be followed by
`=` and a parameter:

    required,min=3,oneof=red green

* `Rule.ofToken` — one entry, cut at its first `=`; a parameter may hold further ones.
* `Rule.text` — the entry that says a rule.
* `RuleLine.isSkip` — the two lines, empty and `-`, that switch checking off.
* `RuleLine.rules` — the rules of a line in order, blanks around the entries and empty entries
  dropped.
-/

namespace RecordCheck

/-- A rule as a rule line asks for it: a name and the text of its parameter, which is empty when
the rule has none. -/
structure Rule where
  name : String
  param : String
  deriving DecidableEq, Repr, Inhabited

namespace Rule

/-- The rule of one entry: the name stands before the first `=`, the parameter after it. -/
def ofToken (token : List Char) : Rule :=
  let parts := Text.cutAt '=' token
  ⟨String.ofList parts.1, String.ofList (parts.2.getD [])⟩

/-- The entry that says a rule: its name, and its parameter if it has one. -/
def text (r : Rule) : String :=
  if r.param.isEmpty then r.name else r.name ++ "=" ++ r.param

end Rule

namespace RuleLine

/-- Does the line switch checking off? -/
def isSkip (line : String) : Bool :=
  line == "" || line == "-"

/-- The entries between the commas of a line, trimmed, without the empty ones. -/
def tokens (line : List Char) : List (List Char) :=
  ((line.splitOn ',').map Text.trim).filter fun token => !token.isEmpty

/-- The rules of a line, in order. -/
def rules (line : String) : List Rule :=
  if isSkip line then [] else (tokens line.toList).map Rule.ofToken

end RuleLine

end RecordCheck
