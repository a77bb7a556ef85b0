import RecordCheck.Text.Category

/-!
# Regular expressions

Patterns for texts, with anchors and counted repetition, without back-references.

* `Regex.Spans text r i j` — the meaning: `r` spans the part of the text from position `i` to
  position `j`.
* `Regex.ends` — from where to where, computed for all positions at once.  A set of positions is
  a number whose bits say which positions are in it, and every step costs no more than the text
  is long, whatever the pattern: there is no backtracking.
* `Regex.isMatch` — does the pattern span some part of the text?
-/

namespace RecordCheck

/-- A condition on the characters on either side of a position. -/
inductive Anchor where
  | textStart
  | textEnd
  | lineStart
  | lineEnd
  /-- A line begins here, when a carriage return ends a line too, alone or with a line feed. -/
  | returnLineStart
  | returnLineEnd
  /-- A word begins or ends here; words are made of the characters that the test accepts. -/
  | wordBoundary (isWord : Char → Bool)
  | noWordBoundary (isWord : Char → Bool)
  | wordStart (isWord : Char → Bool)
  | wordEnd (isWord : Char → Bool)
  /-- No word character stands before this position. -/
  | wordStartHalf (isWord : Char → Bool)
  /-- No word character stands after this position. -/
  | wordEndHalf (isWord : Char → Bool)

/-- Does the condition hold between two characters?  A character is missing at either end of the
text. -/
def Anchor.holds (before after : Option Char) : Anchor → Bool
  | .textStart => before.isNone
  | .textEnd => after.isNone
  | .lineStart => before.isNone || before == some '\n'
  | .lineEnd => after.isNone || after == some '\n'
  | .returnLineStart =>
    before.isNone || before == some '\n' || (before == some '\r' && after != some '\n')
  | .returnLineEnd =>
    after.isNone || after == some '\r' || (after == some '\n' && before != some '\r')
  | .wordBoundary w => before.any w != after.any w
  | .noWordBoundary w => before.any w == after.any w
  | .wordStart w => !before.any w && after.any w
  | .wordEnd w => before.any w && !after.any w
  | .wordStartHalf w => !before.any w
  | .wordEndHalf w => !after.any w

/-- A regular expression. -/
inductive Regex where
  /-- Spans nothing, everywhere. -/
  | empty
  /-- Spans one character that passes a test. -/
  | one (test : Char → Bool)
  /-- Spans nothing, where a condition holds. -/
  | anchor (a : Anchor)
  /-- One pattern after the other. -/
  | seq (r s : Regex)
  /-- One pattern or the other. -/
  | alt (r s : Regex)
  /-- A pattern repeated at least `min` and, if there is a bound, at most `max` times. -/
  | times (r : Regex) (min : Nat) (max : Option Nat)
  deriving Inhabited

namespace Regex

/-! ## Meaning -/

/-- Relates `i` to `j` by `k` steps of a relation. -/
def Steps (R : Nat → Nat → Prop) : Nat → Nat → Nat → Prop
  | 0, i, j => i = j
  | k + 1, i, j => ∃ m, R i m ∧ Steps R k m j

/-- The character before a position. -/
def before (text : List Char) : Nat → Option Char
  | 0 => none
  | i + 1 => text[i]?

/-- The pattern spans the text from position `i` to position `j`. -/
def Spans (text : List Char) : Regex → Nat → Nat → Prop
  | .empty, i, j => i = j
  | .one test, i, j => j = i + 1 ∧ ∃ c, text[i]? = some c ∧ test c = true
  | .anchor a, i, j => i = j ∧ a.holds (before text i) text[i]? = true
  | .seq r s, i, j => ∃ m, r.Spans text i m ∧ s.Spans text m j
  | .alt r s, i, j => r.Spans text i j ∨ s.Spans text i j
  | .times r min max, i, j => ∃ k, min ≤ k ∧ (∀ m ∈ max, k ≤ m) ∧ Steps (r.Spans text) k i j

/-! ## Sets of positions -/

/-- The set of the positions of a text, its end included, at which a condition on the characters
before and after holds. -/
def positions (holds : Option Char → Option Char → Bool) (before : Option Char) :
    List Char → Nat
  | [] => (holds before none).toNat
  | c :: cs => (holds before (some c)).toNat + 2 * positions holds (some c) cs

/-- The positions reached by exactly `k` steps. -/
def exactly (step : Nat → Nat) : Nat → Nat → Nat
  | 0, from_ => from_
  | k + 1, from_ => exactly step k (step from_)

/-- The positions reached by at most `k` steps; it stops as soon as a step finds nothing new. -/
def atMost (step : Nat → Nat) : Nat → Nat → Nat
  | 0, from_ => from_
  | k + 1, from_ =>
    let next := from_ ||| step from_
    if next = from_ then from_ else atMost step k next

/-- The positions at which the pattern can end when it begins at one of the given positions. -/
def ends (text : List Char) : Regex → Nat → Nat
  | .empty, from_ => from_
  | .one test, from_ =>
    (from_ &&& positions (fun _ after => after.any test) none text) <<< 1
  | .anchor a, from_ => from_ &&& positions (fun before after => a.holds before after) none text
  | .seq r s, from_ => ends text s (ends text r from_)
  | .alt r s, from_ => ends text r from_ ||| ends text s from_
  | .times r min max, from_ =>
    let more := match max with
      | some max => max - min
      | none => text.length
    if max.any (· < min) then 0
    else atMost (ends text r) more (exactly (ends text r) min from_)

/-- Does the pattern span some part of the text? -/
def isMatch (r : Regex) (text : List Char) : Bool :=
  ends text r (Nat.pow 2 (text.length + 1) - 1) != 0

/-! ## Building patterns -/

/-- Patterns one after the other. -/
def sequence (rs : List Regex) : Regex :=
  rs.foldr .seq .empty

/-- The pattern without or with one occurrence. -/
def optional (r : Regex) : Regex :=
  .times r 0 (some 1)

/-- One or more occurrences. -/
def oneOrMore (r : Regex) : Regex :=
  .times r 1 none

/-- Any number of occurrences. -/
def zeroOrMore (r : Regex) : Regex :=
  .times r 0 none

/-- Exactly `n` occurrences. -/
def exact (r : Regex) (n : Nat) : Regex :=
  .times r n (some n)

/-- A given character. -/
def char (c : Char) : Regex :=
  .one (· == c)

/-- A given text. -/
def literal (s : String) : Regex :=
  sequence (s.toList.map char)

/-- The pattern spans the whole text. -/
def whole (r : Regex) : Regex :=
  .seq (.anchor .textStart) (.seq r (.anchor .textEnd))

end Regex

end RecordCheck
