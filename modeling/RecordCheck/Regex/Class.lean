import RecordCheck.Text.Case
import RecordCheck.Text.Category

/-!
# Character classes of patterns

* `CharTest` — a class, as a test on characters; the operations on sets are written on it.
* `CharTest.anyCase` — the class together with the other-case forms of its members.
* `CharTest.named?` — the classes of ASCII characters that are written `[:name:]`.
-/

namespace RecordCheck

/-- A class of characters. -/
abbrev CharTest := Char → Bool

namespace CharTest

/-- No character. -/
def none : CharTest := fun _ => false

/-- One character. -/
def single (c : Char) : CharTest := fun d => d == c

/-- The characters from one to another, both included. -/
def range (first last : Char) : CharTest := fun c => first ≤ c && c ≤ last

/-- The characters of either class. -/
def union (p q : CharTest) : CharTest := fun c => p c || q c

/-- The characters of both classes. -/
def inter (p q : CharTest) : CharTest := fun c => p c && q c

/-- The characters of the first class that are not in the second. -/
def diff (p q : CharTest) : CharTest := fun c => p c && !q c

/-- The characters of exactly one of two classes. -/
def symmDiff (p q : CharTest) : CharTest := fun c => p c != q c

/-- The other characters. -/
def compl (p : CharTest) : CharTest := fun c => !p c

/-- The class or its complement. -/
def complIf (negated : Bool) (p : CharTest) : CharTest :=
  if negated then compl p else p

/-- The characters that differ in case only from one of the class. -/
def anyCase (p : CharTest) : CharTest := fun c => p c || (Text.caseVariants c).any p

/-- The class, with all case forms when case is ignored. -/
def anyCaseIf (ignoreCase : Bool) (p : CharTest) : CharTest :=
  if ignoreCase then anyCase p else p

/-! ## ASCII classes -/

/-- An ASCII letter. -/
def asciiLetter : CharTest := union (range 'a' 'z') (range 'A' 'Z')

/-- An ASCII digit. -/
def asciiDigit : CharTest := range '0' '9'

/-- An ASCII letter, digit or underscore. -/
def asciiWord : CharTest := union (union asciiLetter asciiDigit) (single '_')

/-- A blank ASCII character. -/
def asciiBlank : CharTest := fun c => c == ' ' || ('\t' ≤ c && c ≤ '\r')

/-- The class that a name stands for. -/
def named? : String → Option CharTest
  | "alnum" => some (union asciiLetter asciiDigit)
  | "alpha" => some asciiLetter
  | "ascii" => some (range '\x00' '\x7f')
  | "blank" => some (union (single '\t') (single ' '))
  | "cntrl" => some (union (range '\x00' '\x1f') (single '\x7f'))
  | "digit" => some asciiDigit
  | "graph" => some (range '!' '~')
  | "lower" => some (range 'a' 'z')
  | "print" => some (range ' ' '~')
  | "punct" => some (diff (range '!' '~') (union asciiLetter asciiDigit))
  | "space" => some asciiBlank
  | "upper" => some (range 'A' 'Z')
  | "word" => some asciiWord
  | "xdigit" => some (union asciiDigit (union (range 'a' 'f') (range 'A' 'F')))
  | _ => Option.none

/-- The class of a letter escape: `d`, `s` or `w`, in capitals for the complement. -/
def escaped? : Char → Option CharTest
  | 'd' => some Text.isDecimal
  | 's' => some Text.isBlank
  | 'w' => some Text.isWord
  | 'D' => some (compl Text.isDecimal)
  | 'S' => some (compl Text.isBlank)
  | 'W' => some (compl Text.isWord)
  | _ => Option.none

end CharTest

end RecordCheck
