import RecordCheck.Regex.Basic
import RecordCheck.Regex.Class

/-!
# Text formats

The formats that built-in rules know, each a pattern for a whole text.  All of them are spelled
out in ASCII characters: digits of other scripts and other blanks do not count.

* `Format.pattern` — the pattern of a format.
* `Format.accepts` — does a text have the format?
-/

namespace RecordCheck

/-- The formats that built-in rules know. -/
inductive Format where
  | email
  /-- A mobile number of eleven digits. -/
  | phone
  | url
  /-- Four groups of one to three digits with points between them; how large the groups are is
  not a matter of format. -/
  | ip
  | alpha
  | alphaNum
  /-- A run of digits. -/
  | numeric
  /-- Digits with an optional minus before them and an optional point among or after them. -/
  | number
  | username
  /-- An identity card number of eighteen places with a date in it. -/
  | idCard
  deriving DecidableEq, Repr, Inhabited

namespace Format

open CharTest Regex

/-- An ASCII letter or digit. -/
def asciiAlnum : CharTest := union asciiLetter asciiDigit

/-- One of the characters of a text. -/
def oneOf (s : String) : CharTest := fun c => s.toList.contains c

/-- A digit. -/
def digit : Regex := .one asciiDigit

/-- A digit in a range. -/
def digitIn (first last : Char) : Regex := .one (range first last)

/-- The five blank characters that no address may hold. -/
def addressBlank : CharTest := oneOf "\t\n\x0c\r "

/-- The pattern of a format, to be matched by the whole text. -/
def body : Format → Regex
  | .email =>
    sequence [
      oneOrMore (.one (union asciiAlnum (oneOf "._%+-"))), char '@',
      oneOrMore (.one (union asciiAlnum (oneOf ".-"))), char '.',
      .times (.one asciiLetter) 2 none]
  | .phone => sequence [char '1', digitIn '3' '9', exact digit 9]
  | .url =>
    sequence [
      literal "http", optional (char 's'), literal "://",
      .one (CharTest.compl (union addressBlank (oneOf "/$.?#"))),
      .one (CharTest.compl (single '\n')),
      zeroOrMore (.one (CharTest.compl addressBlank))]
  | .ip =>
    .seq (exact (.seq (.times digit 1 (some 3)) (char '.')) 3) (.times digit 1 (some 3))
  | .alpha => oneOrMore (.one asciiLetter)
  | .alphaNum => oneOrMore (.one asciiAlnum)
  | .numeric => oneOrMore digit
  | .number =>
    sequence [optional (char '-'), oneOrMore digit, optional (char '.'), zeroOrMore digit]
  | .username => oneOrMore (.one asciiWord)
  | .idCard =>
    sequence [
      digitIn '1' '9', exact digit 5,
      .alt (literal "18") (.alt (literal "19") (literal "20")), exact digit 2,
      .alt (.seq (char '0') (digitIn '1' '9')) (.seq (char '1') (digitIn '0' '2')),
      .alt (.seq (char '0') (digitIn '1' '9'))
        (.alt (.seq (digitIn '1' '2') digit) (.seq (char '3') (digitIn '0' '1'))),
      exact digit 3, .one (union asciiDigit (oneOf "Xx"))]

/-- The pattern of a format. -/
def pattern (f : Format) : Regex :=
  whole f.body

/-- Does a text have the format? -/
def accepts (f : Format) (s : List Char) : Bool :=
  f.pattern.isMatch s

end Format

end RecordCheck
