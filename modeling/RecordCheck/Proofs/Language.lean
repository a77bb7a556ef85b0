import Mathlib.Computability.Language
import RecordCheck.Format
import RecordCheck.Proofs.Matching
import RecordCheck.Text.Split

/-!
# The languages of patterns

What a pattern without anchors spans does not depend on where it stands, so it has a language: the
texts that it spans.  Languages follow the shape of a pattern, one pattern after the other being a
product and a repetition a power.  A format accepts exactly the texts in the language of its pattern.

* `Regex.language`, `Regex.hasLanguage_spans` — the language of a pattern, and that the pattern spans
  just the texts in it.
* `Regex.language_char`, `Regex.language_literal`, `Regex.mem_language_times_one` and so on — the
  languages of the usual building blocks.
* `Regex.mem_separated_iff` — the language of parts with separators between them.
* `Format.accepts_iff` — the texts that have a format.
-/

namespace RecordCheck

namespace Regex

/-- The texts that a pattern spans wherever they stand; meant for patterns without anchors. -/
def language : Regex → Language Char
  | .empty => 1
  | .one test => {w | ∃ c, test c = true ∧ w = [c]}
  | .anchor _ => 0
  | .seq r s => r.language * s.language
  | .alt r s => r.language + s.language
  | .times r min max => {w | ∃ k, min ≤ k ∧ (∀ m ∈ max, k ≤ m) ∧ w ∈ r.language ^ k}

/-- Is the pattern free of anchors? -/
def isFree : Regex → Bool
  | .empty | .one _ => true
  | .anchor _ => false
  | .seq r s | .alt r s => r.isFree && s.isFree
  | .times r _ _ => r.isFree

theorem mem_language_one {test : Char → Bool} {w : List Char} :
    w ∈ (one test).language ↔ ∃ c, test c = true ∧ w = [c] :=
  Iff.rfl

theorem mem_language_times {r : Regex} {min : ℕ} {max : Option ℕ} {w : List Char} :
    w ∈ (times r min max).language ↔ ∃ k, min ≤ k ∧ (∀ m ∈ max, k ≤ m) ∧ w ∈ r.language ^ k :=
  Iff.rfl

/-! ## Spans and languages -/

/-- Where one part of a text ends and the rest begins, the relation spans the beginnings of the rest
that are in the language, and nothing else. -/
def HasLanguage (R : List Char → ℕ → ℕ → Prop) (L : Language Char) : Prop :=
  ∀ (done rest : List Char) (j : ℕ), R (done ++ rest) done.length j ↔
    ∃ w ∈ L, ∃ after, rest = w ++ after ∧ j = (done ++ w).length

namespace HasLanguage

variable {R S : List Char → ℕ → ℕ → Prop} {L M : Language Char}

theorem one : HasLanguage (fun _ i j => i = j) 1 := by
  intro done rest j
  simp [eq_comm]

/-- The second relation begins where the first has ended. -/
theorem mul (hR : HasLanguage R L) (hS : HasLanguage S M) :
    HasLanguage (fun text i j => ∃ m, R text i m ∧ S text m j) (L * M) := by
  intro done rest j
  constructor
  · rintro ⟨m, hm, hj⟩
    obtain ⟨w, hw, after, rfl, rfl⟩ := (hR done rest m).1 hm
    rw [← List.append_assoc] at hj
    obtain ⟨x, hx, after, rfl, rfl⟩ := (hS (done ++ w) after j).1 hj
    exact ⟨w ++ x, Language.append_mem_mul hw hx, after, by simp, by simp⟩
  · rintro ⟨_, hwx, after, rfl, rfl⟩
    obtain ⟨w, hw, x, hx, rfl⟩ := Language.mem_mul.1 hwx
    refine ⟨(done ++ w).length, (hR done _ _).2 ⟨w, hw, x ++ after, by simp, rfl⟩, ?_⟩
    have hsecond := (hS (done ++ w) (x ++ after) _).2 ⟨x, hx, after, rfl, rfl⟩
    simpa using hsecond

theorem pow (hR : HasLanguage R L) (k : ℕ) :
    HasLanguage (fun text => Steps (R text) k) (L ^ k) := by
  induction k with
  | zero =>
    rw [pow_zero]
    exact one
  | succ k ih =>
    rw [pow_succ']
    exact hR.mul ih

end HasLanguage

/-- **A pattern without anchors spans exactly the texts in its language.** -/
theorem hasLanguage_spans {r : Regex} (h : r.isFree = true) :
    HasLanguage (fun text => Spans text r) r.language := by
  induction r with
  | empty => exact .one
  | one test =>
    intro done rest j
    constructor
    · rintro ⟨rfl, c, hc, htest⟩
      rw [List.getElem?_append_right le_rfl, Nat.sub_self] at hc
      obtain ⟨after, rfl⟩ := List.head?_eq_some_iff.1 (List.head?_eq_getElem?.trans hc)
      exact ⟨[c], ⟨c, htest, rfl⟩, after, rfl, by simp⟩
    · rintro ⟨_, ⟨c, htest, rfl⟩, after, rfl, rfl⟩
      exact ⟨by simp, c, by simp, htest⟩
  | anchor a => cases h
  | seq r s ihr ihs =>
    rw [isFree, Bool.and_eq_true] at h
    exact (ihr h.1).mul (ihs h.2)
  | alt r s ihr ihs =>
    rw [isFree, Bool.and_eq_true] at h
    intro done rest j
    simp only [Spans, ihr h.1 done rest j, ihs h.2 done rest j, language, Language.mem_add, or_and_right,
      exists_or]
  | times r min max ih =>
    intro done rest j
    simp only [Spans, ((ih h).pow _) done rest j, mem_language_times]
    constructor
    · rintro ⟨k, hmin, hmax, w, hw, hrest⟩
      exact ⟨w, ⟨k, hmin, hmax, hw⟩, hrest⟩
    · rintro ⟨w, ⟨k, hmin, hmax, hw⟩, hrest⟩
      exact ⟨k, hmin, hmax, w, hw, hrest⟩

/-- A pattern for whole texts matches exactly the texts in its language. -/
theorem isMatch_whole_iff_mem {r : Regex} (h : r.isFree = true) {text : List Char} :
    (whole r).isMatch text = true ↔ text ∈ r.language := by
  rw [isMatch_whole_iff]
  refine (hasLanguage_spans h [] text text.length).trans ⟨?_, ?_⟩
  · rintro ⟨w, hw, after, rfl, hlength⟩
    obtain rfl : after = [] := by simpa using hlength
    rwa [List.append_nil]
  · intro htext
    exact ⟨text, htext, [], by simp, by simp⟩

/-! ## Building blocks -/

theorem singleton_mul_singleton (u v : List Char) : ({u} * {v} : Language Char) = {u ++ v} :=
  Set.image2_singleton

theorem mem_singleton_mul {u w : List Char} {L : Language Char} :
    w ∈ ({u} * L : Language Char) ↔ ∃ rest ∈ L, w = u ++ rest := by
  rw [Language.mem_mul]
  constructor
  · rintro ⟨_, rfl, rest, hrest, rfl⟩
    exact ⟨rest, hrest, rfl⟩
  · rintro ⟨rest, hrest, rfl⟩
    exact ⟨u, rfl, rest, hrest, rfl⟩

theorem mem_one_mul {test : Char → Bool} {w : List Char} {L : Language Char} :
    w ∈ (one test).language * L ↔ ∃ c, test c = true ∧ ∃ rest ∈ L, w = c :: rest := by
  rw [Language.mem_mul]
  constructor
  · rintro ⟨_, ⟨c, hc, rfl⟩, rest, hrest, rfl⟩
    exact ⟨c, hc, rest, hrest, rfl⟩
  · rintro ⟨c, hc, rest, hrest, rfl⟩
    exact ⟨[c], ⟨c, hc, rfl⟩, rest, hrest, rfl⟩

theorem language_sequence_cons (r : Regex) (rs : List Regex) :
    (sequence (r :: rs)).language = r.language * (sequence rs).language :=
  rfl

theorem language_sequence_nil : (sequence []).language = 1 :=
  rfl

theorem language_seq (r s : Regex) : (seq r s).language = r.language * s.language :=
  rfl

theorem language_alt (r s : Regex) : (alt r s).language = r.language + s.language :=
  rfl

theorem language_char (c : Char) : (char c).language = {[c]} := by
  ext w
  rw [char, mem_language_one]
  simp only [beq_iff_eq, exists_eq_left]
  rfl

theorem language_literal (s : String) : (literal s).language = {s.toList} := by
  rw [literal]
  induction s.toList with
  | nil => rfl
  | cons c cs ih =>
    rw [List.map_cons, language_sequence_cons, ih, language_char, singleton_mul_singleton,
      List.singleton_append]

theorem language_exact (r : Regex) (n : ℕ) : (exact r n).language = r.language ^ n := by
  ext w
  rw [exact, mem_language_times]
  constructor
  · rintro ⟨k, hmin, hmax, hw⟩
    obtain rfl : k = n := le_antisymm (hmax n rfl) hmin
    exact hw
  · intro hw
    exact ⟨n, le_rfl, by simp, hw⟩

theorem language_optional (r : Regex) : (optional r).language = 1 + r.language := by
  ext w
  rw [optional, mem_language_times, Language.mem_add]
  constructor
  · rintro ⟨k, -, hmax, hw⟩
    obtain rfl | rfl : k = 0 ∨ k = 1 := Nat.le_one_iff_eq_zero_or_eq_one.1 (hmax 1 rfl)
    · exact .inl hw
    · exact .inr (pow_one r.language ▸ hw)
  · rintro (hw | hw)
    · exact ⟨0, le_rfl, by simp, hw⟩
    · exact ⟨1, zero_le_one, by simp, (pow_one r.language).symm ▸ hw⟩

theorem mem_language_one_pow {test : Char → Bool} {k : ℕ} {w : List Char} :
    w ∈ (one test).language ^ k ↔ w.length = k ∧ ∀ c ∈ w, test c = true := by
  induction k generalizing w with
  | zero =>
    rw [pow_zero, Language.mem_one, List.length_eq_zero_iff]
    constructor
    · rintro rfl
      simp
    · exact And.left
  | succ k ih =>
    rw [pow_succ', mem_one_mul]
    simp only [ih]
    constructor
    · rintro ⟨c, hc, rest, ⟨rfl, hrest⟩, rfl⟩
      exact ⟨rfl, List.forall_mem_cons.2 ⟨hc, hrest⟩⟩
    · rintro ⟨hlength, hw⟩
      obtain ⟨c, rest, rfl⟩ := List.exists_cons_of_length_eq_add_one hlength
      rw [List.forall_mem_cons] at hw
      exact ⟨c, hw.1, rest, ⟨Nat.succ_inj.1 hlength, hw.2⟩, rfl⟩

/-- A repeated character class: so many characters, all of the class. -/
theorem mem_language_times_one {test : Char → Bool} {min : ℕ} {max : Option ℕ} {w : List Char} :
    w ∈ (times (one test) min max).language ↔
      min ≤ w.length ∧ (∀ m ∈ max, w.length ≤ m) ∧ ∀ c ∈ w, test c = true := by
  rw [mem_language_times]
  simp only [mem_language_one_pow]
  constructor
  · rintro ⟨k, hmin, hmax, rfl, hw⟩
    exact ⟨hmin, hmax, hw⟩
  · rintro ⟨hmin, hmax, hw⟩
    exact ⟨w.length, hmin, hmax, rfl, hw⟩

theorem mem_language_zeroOrMore_one {test : Char → Bool} {w : List Char} :
    w ∈ (zeroOrMore (one test)).language ↔ ∀ c ∈ w, test c = true := by
  rw [zeroOrMore, mem_language_times_one]
  simp

theorem mem_language_oneOrMore_one {test : Char → Bool} {w : List Char} :
    w ∈ (oneOrMore (one test)).language ↔ w ≠ [] ∧ ∀ c ∈ w, test c = true := by
  rw [oneOrMore, mem_language_times_one, ← List.length_pos_iff]
  simp [Nat.succ_le_iff]

/-- First some characters of a class, at least one. -/
theorem mem_oneOrMore_one_mul {test : Char → Bool} {w : List Char} {L : Language Char} :
    w ∈ (oneOrMore (one test)).language * L ↔
      ∃ run, (run ≠ [] ∧ ∀ c ∈ run, test c = true) ∧ ∃ rest ∈ L, w = run ++ rest := by
  rw [Language.mem_mul]
  simp only [mem_language_oneOrMore_one, eq_comm]

/-- Parts with a separator between any two of them. -/
theorem mem_separated_iff {L : Language Char} {sep : Char} {n : ℕ} {w : List Char} :
    w ∈ (L * {[sep]}) ^ n * L ↔
      ∃ parts : List (List Char), parts.length = n + 1 ∧ (∀ part ∈ parts, part ∈ L) ∧
        w = [sep].intercalate parts := by
  induction n generalizing w with
  | zero =>
    rw [pow_zero, one_mul]
    constructor
    · intro hw
      exact ⟨[w], rfl, by simpa using hw, List.intercalate_singleton.symm⟩
    · rintro ⟨parts, hlength, hparts, rfl⟩
      obtain ⟨part, rfl⟩ := List.length_eq_one_iff.1 hlength
      rw [List.intercalate_singleton]
      exact hparts part (List.mem_singleton_self part)
  | succ n ih =>
    rw [pow_succ', mul_assoc, mul_assoc, Language.mem_mul]
    constructor
    · rintro ⟨part, hpart, _, htail, rfl⟩
      obtain ⟨rest, hrest, rfl⟩ := mem_singleton_mul.1 htail
      obtain ⟨parts, hlength, hparts, rfl⟩ := ih.1 hrest
      have hne : parts ≠ [] := List.ne_nil_of_length_eq_add_one hlength
      refine ⟨part :: parts, congrArg (· + 1) hlength, List.forall_mem_cons.2 ⟨hpart, hparts⟩, ?_⟩
      rw [List.intercalate_cons_of_ne_nil hne, List.append_assoc, List.singleton_append]
    · rintro ⟨parts, hlength, hparts, rfl⟩
      obtain ⟨part, parts, rfl⟩ := List.exists_cons_of_length_eq_add_one hlength
      rw [List.forall_mem_cons] at hparts
      have hlength : parts.length = n + 1 := Nat.succ_inj.1 hlength
      have hne : parts ≠ [] := List.ne_nil_of_length_eq_add_one hlength
      refine ⟨part, hparts.1, sep :: [sep].intercalate parts,
        mem_singleton_mul.2 ⟨_, ih.2 ⟨parts, hlength, hparts.2, rfl⟩, rfl⟩, ?_⟩
      rw [List.intercalate_cons_of_ne_nil hne, List.append_assoc, List.singleton_append]

end Regex

namespace Format

theorem asciiLetter_eq_isAlpha (c : Char) : CharTest.asciiLetter c = c.isAlpha := by
  have hupper : CharTest.range 'A' 'Z' c = c.isUpper := (Bool.decide_and _ _).symm
  have hlower : CharTest.range 'a' 'z' c = c.isLower := rfl
  rw [CharTest.asciiLetter, CharTest.union, hupper, hlower, Bool.or_comm]
  rfl

theorem asciiAlnum_eq_isAlphanum (c : Char) : asciiAlnum c = c.isAlphanum := by
  rw [asciiAlnum, CharTest.union, asciiLetter_eq_isAlpha]
  rfl

theorem isFree_body (f : Format) : f.body.isFree = true := by
  cases f <;> rfl

/-- A text has a format exactly when it is in the language of the pattern. -/
theorem accepts_iff {f : Format} {s : List Char} :
    f.accepts s = true ↔ s ∈ f.body.language :=
  Regex.isMatch_whole_iff_mem f.isFree_body

end Format

end RecordCheck
