import RecordCheck.Proofs.Address

/-!
# Character classes

The rules `alpha`, `alphanum`, `numeric` and `username` each ask for characters of one class, and
the rule `number` for a decimal numeral.  The patterns want at least one character, but the empty
text is accepted before they are asked; so the first four rules come down to all characters of a
text, and rules with a larger class accept more texts.

* `Format.IsDecimal`, `Format.number_accepts_iff` — the texts with the format of a number.
* `Builtin.class?`, `Builtin.holds_iff_of_class?` — the rules with a class, and the texts that they
  accept.
* `Builtin.classes_hold_iff` — the texts that the five rules accept, and which rules imply which.
-/

namespace RecordCheck

open Regex (language_sequence_cons language_sequence_nil language_char language_optional
  mem_oneOrMore_one_mul mem_language_oneOrMore_one mem_language_zeroOrMore_one)

namespace Format

variable {s : List Char}

/-! ## Decimal numerals -/

/-- An optional minus sign, one or more digits, an optional point and any number of digits. -/
def IsDecimal (s : List Char) : Prop :=
  ∃ sign whole point fraction : List Char, s = sign ++ (whole ++ (point ++ fraction)) ∧
    (sign = [] ∨ sign = ['-']) ∧ Numeral.IsDigits whole ∧ (point = [] ∨ point = ['.']) ∧
    ∀ c ∈ fraction, c.isDigit = true

/-- First a character that may be left out. -/
theorem mem_optional_char_mul {c : Char} {w : List Char} {L : Language Char} :
    w ∈ (1 + {[c]}) * L ↔ ∃ part, (part = [] ∨ part = [c]) ∧ ∃ rest ∈ L, w = part ++ rest := by
  rw [Language.mem_mul]
  constructor
  · rintro ⟨part, hpart, rest, hrest, rfl⟩
    exact ⟨part, hpart, rest, hrest, rfl⟩
  · rintro ⟨part, hpart, rest, hrest, rfl⟩
    exact ⟨part, hpart, rest, hrest, rfl⟩

/-- **The texts with the format of a number.** -/
theorem number_accepts_iff : Format.number.accepts s = true ↔ IsDecimal s := by
  rw [accepts_iff]
  simp only [body, language_sequence_cons, language_sequence_nil, language_char, language_optional,
    mul_one, mem_optional_char_mul, digit, mem_oneOrMore_one_mul, mem_language_zeroOrMore_one]
  constructor
  · rintro ⟨sign, hsign, _, ⟨whole, hwhole, _, ⟨point, hpoint, fraction, hfraction, rfl⟩, rfl⟩, rfl⟩
    exact ⟨sign, whole, point, fraction, rfl, hsign, hwhole, hpoint, hfraction⟩
  · rintro ⟨sign, whole, point, fraction, rfl, hsign, hwhole, hpoint, hfraction⟩
    exact ⟨sign, hsign, _, ⟨whole, hwhole, _, ⟨point, hpoint, fraction, hfraction, rfl⟩, rfl⟩, rfl⟩

/-- Digits alone are a decimal numeral. -/
theorem IsDecimal.of_isDigits (h : Numeral.IsDigits s) : IsDecimal s :=
  ⟨[], s, [], [], by simp, .inl rfl, h, .inl rfl, by simp⟩

end Format

namespace Builtin

/-! ## The rules -/

variable {s : String} {param : List Char}

/-- A rule that asks for one or more characters of a class, and is content with none, asks that all
characters be of the class. -/
theorem textPasses_run_iff {f : Format} {test : Char → Bool}
    (hf : f.body = Regex.oneOrMore (.one test)) :
    textPasses f.accepts (.text s) = true ↔ ∀ c ∈ s.toList, test c = true := by
  rw [textPasses_iff, Format.accepts_iff, hf, mem_language_oneOrMore_one]
  constructor
  · rintro (rfl | ⟨-, hs⟩)
    · simp
    · exact hs
  · intro hs
    by_cases hne : s = ""
    · exact .inl hne
    · exact .inr ⟨by simpa using hne, hs⟩

/-- The class of a rule that asks for nothing but a class of characters. -/
def class? : Builtin → Option (Char → Bool)
  | .alpha => some Char.isAlpha
  | .alphanum => some Char.isAlphanum
  | .numeric => some Char.isDigit
  | .username => some fun c => c.isAlphanum || c == '_'
  | _ => none

/-- **A rule with a class accepts exactly the texts of characters of this class.** -/
theorem holds_iff_of_class? {b : Builtin} {test : Char → Bool} (hb : b.class? = some test) :
    b.holds (.text s) param = true ↔ ∀ c ∈ s.toList, test c = true := by
  cases b with
  | alpha =>
    cases hb
    simp only [← Format.asciiLetter_eq_isAlpha]
    exact textPasses_run_iff (f := .alpha) rfl
  | alphanum =>
    cases hb
    simp only [← Format.asciiAlnum_eq_isAlphanum]
    exact textPasses_run_iff (f := .alphaNum) rfl
  | numeric =>
    cases hb
    exact textPasses_run_iff (f := .numeric) rfl
  | username =>
    cases hb
    simp only [← Format.asciiAlnum_eq_isAlphanum]
    exact textPasses_run_iff (f := .username) rfl
  | _ => cases hb

/-- A rule with a larger class accepts what one with a smaller class does. -/
theorem holds_of_class?_le {b d : Builtin} {small large : Char → Bool} (hb : b.class? = some small)
    (hd : d.class? = some large) (hle : ∀ c, small c = true → large c = true)
    (h : b.holds (.text s) param = true) : d.holds (.text s) param = true := by
  rw [holds_iff_of_class? hb] at h
  rw [holds_iff_of_class? hd]
  exact fun c hc => hle c (h c hc)

theorem number_holds_iff :
    Builtin.number.holds (.text s) param = true ↔ s = "" ∨ Format.IsDecimal s.toList := by
  rw [← Format.number_accepts_iff]
  exact textPasses_iff

theorem number_holds_of_numeric (h : Builtin.numeric.holds (.text s) param = true) :
    Builtin.number.holds (.text s) param = true := by
  rw [holds_iff_of_class? rfl] at h
  rw [number_holds_iff]
  by_cases hne : s = ""
  · exact .inl hne
  · exact .inr (.of_isDigits ⟨by simpa using hne, h⟩)

/-- **The rules for characters accept exactly their classes, and imply one another as the classes
do.**  A text satisfies `alpha`, `alphanum`, `numeric` or `username` if all its characters are ASCII
letters; ASCII letters or digits; ASCII digits; or ASCII letters, digits or underscores.  It
satisfies `number` if it is empty or a decimal numeral from end to end.  So `alpha` implies
`alphanum`, which implies `username`, and `numeric` implies `alphanum` and `number`. -/
theorem classes_hold_iff (s : String) (param : List Char) :
    (Builtin.alpha.holds (.text s) param = true ↔ ∀ c ∈ s.toList, c.isAlpha = true) ∧
    (Builtin.alphanum.holds (.text s) param = true ↔ ∀ c ∈ s.toList, c.isAlphanum = true) ∧
    (Builtin.numeric.holds (.text s) param = true ↔ ∀ c ∈ s.toList, c.isDigit = true) ∧
    (Builtin.username.holds (.text s) param = true ↔
      ∀ c ∈ s.toList, c.isAlphanum = true ∨ c = '_') ∧
    (Builtin.number.holds (.text s) param = true ↔ s = "" ∨ Format.IsDecimal s.toList) ∧
    (Builtin.alpha.holds (.text s) param = true →
      Builtin.alphanum.holds (.text s) param = true) ∧
    (Builtin.alphanum.holds (.text s) param = true →
      Builtin.username.holds (.text s) param = true) ∧
    (Builtin.numeric.holds (.text s) param = true →
      Builtin.alphanum.holds (.text s) param = true) ∧
    (Builtin.numeric.holds (.text s) param = true →
      Builtin.number.holds (.text s) param = true) := by
  have hletter (c : Char) (hc : c.isAlpha = true) : c.isAlphanum = true :=
    Bool.or_eq_true_iff.2 (.inl hc)
  have hdigit (c : Char) (hc : c.isDigit = true) : c.isAlphanum = true :=
    Bool.or_eq_true_iff.2 (.inr hc)
  have hword (c : Char) (hc : c.isAlphanum = true) : (c.isAlphanum || c == '_') = true :=
    Bool.or_eq_true_iff.2 (.inl hc)
  refine ⟨holds_iff_of_class? rfl, holds_iff_of_class? rfl, holds_iff_of_class? rfl, ?_,
    number_holds_iff, holds_of_class?_le rfl rfl hletter, holds_of_class?_le rfl rfl hword,
    holds_of_class?_le rfl rfl hdigit, number_holds_of_numeric⟩
  have husername : Builtin.username.holds (.text s) param = true ↔
      ∀ c ∈ s.toList, (c.isAlphanum || c == '_') = true := holds_iff_of_class? rfl
  simpa only [Bool.or_eq_true, beq_iff_eq] using husername

/-- A numeral with a sign and a last point, digits of another script, a line feed after a digit, and
what follows from a run of digits. -/
theorem classes_hold_iff_numerals :
    Builtin.number.holds (.text "-7.") [] = true ∧
    Builtin.numeric.holds (.text "\u0663") [] = false ∧
    Builtin.numeric.holds (.text "7\n") [] = false ∧
    Builtin.alphanum.holds (.text "007") [] = true ∧
    Builtin.number.holds (.text "007") [] = true := by
  have hdigits : Builtin.numeric.holds (.text "007") [] = true := by decide
  obtain ⟨-, -, -, -, hnumber, -⟩ := classes_hold_iff "-7." []
  obtain ⟨-, -, harabic, -⟩ := classes_hold_iff "\u0663" []
  obtain ⟨-, -, hline, -⟩ := classes_hold_iff "7\n" []
  obtain ⟨-, -, -, -, -, -, -, halnum, hnumeral⟩ := classes_hold_iff "007" []
  refine ⟨hnumber.2 (.inr ⟨['-'], ['7'], ['.'], [], rfl, .inr rfl, ⟨by simp, by simp⟩, .inr rfl,
    by simp⟩), ?_, ?_, halnum hdigits, hnumeral hdigits⟩
  · rw [← Bool.not_eq_true, harabic]
    exact fun h => absurd (h '\u0663' (by decide)) (by decide)
  · rw [← Bool.not_eq_true, hline]
    exact fun h => absurd (h '\n' (by decide)) (by decide)

end Builtin

end RecordCheck
