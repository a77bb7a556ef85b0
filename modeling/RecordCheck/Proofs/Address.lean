import RecordCheck.Builtin
import RecordCheck.Proofs.Language
import RecordCheck.Proofs.Literal

/-!
# Addresses

The rules `url` and `ip` are described here character by character.  A web address is a scheme and at
least two characters; the first of them begins a host, and all after the second are not blank.  The
second is a wildcard, so this one place may hold a blank, unless it is a line feed.  A dotted quad is
four numbers of one to three digits, each at most 255.

* `Format.IsAddress`, `Format.url_accepts_iff` — the texts with the format of a web address.
* `Format.ip_accepts_iff` — the texts with the format of a dotted quad.
* `Builtin.url_holds_of_blank` — which texts with a blank the rule `url` accepts, and
  `Builtin.url_accepts_blank` — that there are some.
* `Builtin.ip_holds_iff` — the texts that the rule `ip` accepts.
-/

namespace RecordCheck

open Regex (language_sequence_cons language_sequence_nil language_literal language_char
  language_optional language_exact mem_singleton_mul mem_one_mul singleton_mul_singleton
  mem_language_times_one mem_separated_iff)

namespace Format

/-! ## Web addresses -/

/-- A tab, a line feed, a form feed, a carriage return and a space. -/
def blanks : List Char := ['\t', '\n', '\x0c', '\r', ' ']

/-- The characters besides blanks with which no host begins. -/
def hostMarks : List Char := ['/', '$', '.', '?', '#']

/-- The text is `http://` or `https://` followed by two characters and a rest, and a host may begin
with the first of the two. -/
def IsAddress (s : List Char) (first second : Char) (rest : List Char) : Prop :=
  (s = "http://".toList ++ first :: second :: rest ∨
    s = "https://".toList ++ first :: second :: rest) ∧ first ∉ blanks ∧ first ∉ hostMarks

theorem addressBlank_iff {c : Char} : addressBlank c = true ↔ c ∈ blanks :=
  List.contains_iff_mem

theorem hostMark_iff {c : Char} : oneOf "/$.?#" c = true ↔ c ∈ hostMarks :=
  List.contains_iff_mem

/-- What the pattern asks for after the scheme: a wildcard stands between two classes without
blanks, and only a line feed does not match it. -/
theorem mem_afterScheme_iff {w : List Char} :
    w ∈ (Regex.one (CharTest.compl (CharTest.union addressBlank (oneOf "/$.?#")))).language *
        ((Regex.one (CharTest.compl (CharTest.single '\n'))).language *
          (Regex.zeroOrMore (.one (CharTest.compl addressBlank))).language) ↔
      ∃ first second rest, w = first :: second :: rest ∧ (first ∉ blanks ∧ first ∉ hostMarks) ∧
        second ≠ '\n' ∧ ∀ c ∈ rest, c ∉ blanks := by
  simp only [mem_one_mul, Regex.mem_language_zeroOrMore_one, CharTest.compl, CharTest.union,
    CharTest.single, Bool.not_eq_true', ← Bool.not_eq_true, Bool.or_eq_true, not_or, beq_iff_eq,
    addressBlank_iff, hostMark_iff]
  constructor
  · rintro ⟨first, hfirst, _, ⟨second, hsecond, rest, hrest, rfl⟩, rfl⟩
    exact ⟨first, second, rest, rfl, hfirst, hsecond, hrest⟩
  · rintro ⟨first, second, rest, rfl, hfirst, hsecond, hrest⟩
    exact ⟨first, hfirst, _, ⟨second, hsecond, rest, hrest, rfl⟩, rfl⟩

/-- Either of the two schemes. -/
theorem language_schemes (L : Language Char) :
    {"http".toList} * ((1 + {['s']}) * ({"://".toList} * L)) =
      ({"http://".toList} * L + {"https://".toList} * L : Language Char) := by
  have hplain : "http".toList ++ "://".toList = "http://".toList := rfl
  have hsecure : "http".toList ++ ['s'] ++ "://".toList = "https://".toList := rfl
  rw [add_mul, one_mul, mul_add, ← mul_assoc, ← mul_assoc, ← mul_assoc, singleton_mul_singleton,
    singleton_mul_singleton, singleton_mul_singleton, hplain, hsecure]

/-- **The texts with the format of a web address.**  The second character after the scheme may be
anything but a line feed. -/
theorem url_accepts_iff {s : List Char} :
    Format.url.accepts s = true ↔ ∃ first second rest, IsAddress s first second rest ∧
      second ≠ '\n' ∧ ∀ c ∈ rest, c ∉ blanks := by
  rw [accepts_iff]
  simp only [body, language_sequence_cons, language_sequence_nil, language_literal, language_char,
    language_optional, mul_one, language_schemes, Language.mem_add, mem_singleton_mul,
    mem_afterScheme_iff]
  constructor
  · rintro (⟨_, ⟨first, second, rest, rfl, hfirst, hrest⟩, rfl⟩ |
      ⟨_, ⟨first, second, rest, rfl, hfirst, hrest⟩, rfl⟩)
    · exact ⟨first, second, rest, ⟨.inl rfl, hfirst⟩, hrest⟩
    · exact ⟨first, second, rest, ⟨.inr rfl, hfirst⟩, hrest⟩
  · rintro ⟨first, second, rest, ⟨rfl | rfl, hfirst⟩, hrest⟩
    · exact .inl ⟨_, ⟨first, second, rest, rfl, hfirst, hrest⟩, rfl⟩
    · exact .inr ⟨_, ⟨first, second, rest, rfl, hfirst, hrest⟩, rfl⟩

/-! ## Dotted quads -/

/-- One to three digits. -/
theorem mem_digitGroup_iff {w : List Char} :
    w ∈ (Regex.times digit 1 (some 3)).language ↔ Numeral.IsDigits w ∧ w.length ≤ 3 := by
  rw [digit, mem_language_times_one, Numeral.IsDigits, ← List.length_pos_iff]
  constructor
  · rintro ⟨hmin, hmax, hw⟩
    exact ⟨⟨hmin, hw⟩, hmax 3 rfl⟩
  · rintro ⟨⟨hmin, hw⟩, hmax⟩
    exact ⟨hmin, by simpa using hmax, hw⟩

/-- **The texts with the format of a dotted quad**: four groups of one to three digits. -/
theorem ip_accepts_iff {s : List Char} :
    Format.ip.accepts s = true ↔ ∃ groups : List (List Char), groups.length = 4 ∧
      (∀ group ∈ groups, Numeral.IsDigits group ∧ group.length ≤ 3) ∧
        s = ['.'].intercalate groups := by
  have hbody : Format.ip.body.language =
      ((Regex.times digit 1 (some 3)).language * {['.']}) ^ 3 *
        (Regex.times digit 1 (some 3)).language := by
    rw [← language_char, ← Regex.language, ← language_exact]
    rfl
  rw [accepts_iff, hbody, mem_separated_iff]
  simp only [mem_digitGroup_iff]

end Format

/-- A part of a dotted quad: one to three digits with a value of at most 255, leading zeros
allowed. -/
structure IsOctet (part : List Char) : Prop where
  digits : Numeral.IsDigits part
  short : part.length ≤ 3
  small : Numeral.decimal part ≤ 255

theorem Numeral.IsDigits.not_mem {s : List Char} (h : Numeral.IsDigits s) {c : Char}
    (hc : c.isDigit = false) : c ∉ s := by
  intro hmem
  rw [h.2 c hmem] at hc
  cases hc

namespace Builtin

open Format (IsAddress blanks)

/-- A rule about the form of a text is content with the empty one. -/
theorem textPasses_iff {test : List Char → Bool} {s : String} :
    textPasses test (.text s) = true ↔ s = "" ∨ test s.toList = true := by
  rw [textPasses, Bool.or_eq_true, String.isEmpty_iff]

/-! ## The rule for web addresses -/

theorem url_holds_iff {s : String} {param : List Char} :
    Builtin.url.holds (.text s) param = true ↔ s = "" ∨ Format.url.accepts s.toList = true :=
  textPasses_iff

theorem second_mem_blanks {s : List Char} {first second : Char} {rest : List Char}
    (h : IsAddress s first second rest) (hrest : ∀ c ∈ rest, c ∉ blanks)
    (hblank : ∃ c ∈ s, c ∈ blanks) : second ∈ blanks := by
  obtain ⟨c, hc, hcblank⟩ := hblank
  have hplain : ∀ c ∈ "http://".toList, c ∉ blanks := by simp [blanks]
  have hsecure : ∀ c ∈ "https://".toList, c ∉ blanks := by simp [blanks]
  obtain ⟨hs, hfirst, -⟩ := h
  have hplace : c = first ∨ c = second ∨ c ∈ rest := by
    obtain rfl | rfl := hs
    · rw [List.mem_append, List.mem_cons, List.mem_cons] at hc
      exact hc.resolve_left fun hscheme => hplain c hscheme hcblank
    · rw [List.mem_append, List.mem_cons, List.mem_cons] at hc
      exact hc.resolve_left fun hscheme => hsecure c hscheme hcblank
  obtain rfl | rfl | hc := hplace
  · exact absurd hcblank hfirst
  · exact hcblank
  · exact absurd hcblank (hrest c hc)

/-- **Which texts with a blank the rule `url` accepts.**  The rule accepts the empty text and the
texts with the format of a web address: one of the two schemes, a character with which a host may
begin, a second character that is not a line feed, and any number of characters that are not blank.
So it rejects a text that holds a blank anywhere, unless the only blank is the second character
after the scheme and not a line feed.  A text in which no character after the scheme is blank, the
first one may begin a host, and there is a second one is accepted, whatever the others are. -/
theorem url_holds_of_blank (s : String) (param : List Char) :
    (Builtin.url.holds (.text s) param = true ↔ s = "" ∨ Format.url.accepts s.toList = true) ∧
    (Format.url.accepts s.toList = true ↔
      ∃ first second rest, IsAddress s.toList first second rest ∧ second ≠ '\n' ∧
        ∀ c ∈ rest, c ∉ blanks) ∧
    ((∃ c ∈ s.toList, c ∈ blanks) →
      (Builtin.url.holds (.text s) param = true ↔
        ∃ first second rest, IsAddress s.toList first second rest ∧
          second ∈ blanks ∧ second ≠ '\n' ∧ ∀ c ∈ rest, c ∉ blanks)) ∧
    (∀ first second rest, IsAddress s.toList first second rest →
      (∀ c ∈ second :: rest, c ∉ blanks) → Builtin.url.holds (.text s) param = true) := by
  refine ⟨url_holds_iff, Format.url_accepts_iff, ?_, ?_⟩
  · intro hblank
    have hne : s ≠ "" := by
      rintro rfl
      simp at hblank
    rw [url_holds_iff, or_iff_right hne, Format.url_accepts_iff]
    constructor
    · rintro ⟨first, second, rest, haddress, hsecond, hrest⟩
      exact ⟨first, second, rest, haddress, second_mem_blanks haddress hrest hblank, hsecond, hrest⟩
    · rintro ⟨first, second, rest, haddress, -, hsecond, hrest⟩
      exact ⟨first, second, rest, haddress, hsecond, hrest⟩
  · intro first second rest haddress hplain
    rw [List.forall_mem_cons] at hplain
    have hsecond : second ≠ '\n' := by
      rintro rfl
      exact hplain.1 (by decide)
    exact url_holds_iff.2
      (.inr (Format.url_accepts_iff.2 ⟨first, second, rest, haddress, hsecond, hplain.2⟩))

/-- A space as the second character after the scheme, a tab further on, and characters of other
scripts with a no-break space. -/
theorem url_holds_of_blank_second :
    Builtin.url.holds (.text "http://a b") [] = true ∧
    Builtin.url.holds (.text "http://ab\t") [] = false ∧
    Builtin.url.holds (.text "https://例\u00a0え") [] = true := by
  have hspace := (url_holds_of_blank "http://a b" []).2.2.1 ⟨' ', by decide, by decide⟩
  have htab := (url_holds_of_blank "http://ab\t" []).2.2.1 ⟨'\t', by decide, by decide⟩
  refine ⟨hspace.2 ⟨'a', ' ', ['b'], ⟨.inl rfl, by decide, by decide⟩, by decide, by decide,
    by simp [blanks]⟩, ?_, ?_⟩
  · rw [← Bool.not_eq_true, htab]
    rintro ⟨first, second, rest, ⟨hs | hs, -⟩, hsecond, -⟩
    · cases hs
      exact absurd hsecond (by decide)
    · cases hs
  · exact (url_holds_of_blank "https://例\u00a0え" []).2.2.2 '例' '\u00a0' ['え']
      ⟨.inr rfl, by decide, by decide⟩ (by simp [blanks])

/-- A text with a blank may be accepted. -/
theorem url_accepts_blank :
    ¬ ∀ (s : String) (param : List Char), (∃ c ∈ s.toList, c ∈ blanks) →
      Builtin.url.holds (.text s) param = false := by
  intro h
  have hrejected := h "http://a b" [] ⟨' ', by decide, by decide⟩
  have haccepted : Builtin.url.holds (.text "http://a b") [] = true := by decide
  rw [haccepted] at hrejected
  cases hrejected

/-! ## The rule for dotted quads -/

theorem isOctet_iff {group : List Char} (h : Numeral.IsDigits group) :
    isOctet group = true ↔ Numeral.decimal group ≤ 255 := by
  have hread : Numeral.natural? group = some (Numeral.decimal group) := by
    rw [Numeral.natural?_of_not_plus h.not_sign.1, Numeral.digits?_eq_some_iff]
    exact ⟨h, rfl⟩
  simp [isOctet, hread]

/-- Splitting at the points gives the groups of the format back, so the bound is that of each of
them; and the reader of numbers cannot meet the sign that it would accept. -/
theorem all_isOctet_intercalate_iff {groups : List (List Char)} (hne : groups ≠ [])
    (h : ∀ group ∈ groups, Numeral.IsDigits group) :
    ((['.'].intercalate groups).splitOn '.').all isOctet = true ↔
      ∀ group ∈ groups, Numeral.decimal group ≤ 255 := by
  rw [List.splitOn_intercalate '.' (fun group hgroup => (h group hgroup).not_mem (by decide)) hne,
    List.all_eq_true]
  exact forall₂_congr fun group hgroup => isOctet_iff (h group hgroup)

theorem quad_accepts_iff {s : List Char} :
    (Format.ip.accepts s && (s.splitOn '.').all isOctet) = true ↔
      ∃ groups : List (List Char), groups.length = 4 ∧ (∀ group ∈ groups, IsOctet group) ∧
        s = ['.'].intercalate groups := by
  rw [Bool.and_eq_true, Format.ip_accepts_iff]
  constructor
  · rintro ⟨⟨groups, hlength, hgroups, rfl⟩, hsmall⟩
    rw [all_isOctet_intercalate_iff (List.ne_nil_of_length_eq_add_one hlength)
      fun group hgroup => (hgroups group hgroup).1] at hsmall
    exact ⟨groups, hlength, fun group hgroup =>
      ⟨(hgroups group hgroup).1, (hgroups group hgroup).2, hsmall group hgroup⟩, rfl⟩
  · rintro ⟨groups, hlength, hgroups, rfl⟩
    rw [all_isOctet_intercalate_iff (List.ne_nil_of_length_eq_add_one hlength)
      fun group hgroup => (hgroups group hgroup).digits]
    exact ⟨⟨groups, hlength, fun group hgroup =>
      ⟨(hgroups group hgroup).digits, (hgroups group hgroup).short⟩, rfl⟩,
      fun group hgroup => (hgroups group hgroup).small⟩

/-- **The rule `ip` accepts exactly the dotted quads**, besides the empty text: four parts with
points between them, each one to three ASCII digits with a value of at most 255. -/
theorem ip_holds_iff (s : String) (param : List Char) :
    Builtin.ip.holds (.text s) param = true ↔
      s = "" ∨ ∃ a b c d, IsOctet a ∧ IsOctet b ∧ IsOctet c ∧ IsOctet d ∧
        s.toList = a ++ '.' :: b ++ '.' :: c ++ '.' :: d := by
  have hrule : Builtin.ip.holds (.text s) param = textPasses
      (fun s => Format.ip.accepts s && (s.splitOn '.').all isOctet) (.text s) := rfl
  rw [hrule, textPasses_iff, quad_accepts_iff]
  refine or_congr_right ⟨?_, ?_⟩
  · rintro ⟨groups, hlength, hgroups, hs⟩
    obtain ⟨a, b, c, d, rfl⟩ := List.length_eq_four.1 hlength
    simp only [List.forall_mem_cons] at hgroups
    obtain ⟨ha, hb, hc, hd, -⟩ := hgroups
    exact ⟨a, b, c, d, ha, hb, hc, hd, by simp [hs, List.intercalate_cons_cons]⟩
  · rintro ⟨a, b, c, d, ha, hb, hc, hd, hs⟩
    refine ⟨[a, b, c, d], rfl, ?_, by simp [hs, List.intercalate_cons_cons]⟩
    simp only [List.forall_mem_cons]
    exact ⟨ha, hb, hc, hd, List.forall_mem_nil _⟩

example : Builtin.ip.holds (.text "001.2.30.255") [] = true := by decide

example : Builtin.ip.holds (.text "1.2.3.256") [] = false := by decide

end Builtin

end RecordCheck
