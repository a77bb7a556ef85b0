import RecordCheck.Proofs.Address

/-!
# Numbers of fixed width

An identity card number and a mobile number are rows of digits, each with a fixed width, and some
groups of them are bounded: the year of birth, say, is from 1800 to 2099.  The patterns have no
arithmetic and spell the bounds out digit by digit.  Here the languages of digit groups between two
bounds are put together instead: adjacent bounds by union, and a group with the next one by product.

* `Numeral.group`, `Numeral.group_add_group`, `Numeral.group_mul_group` — the groups of a width
  between two bounds, and how they combine.
* `IsIdentityNumber`, `IsMobileNumber` — what is asked of each place.
* `Format.idCard_accepts_iff`, `Format.phone_accepts_iff`, `Builtin.fixed_width_hold_iff` — the
  formats and the rules `idcard` and `phone` accept exactly these texts.
-/

namespace RecordCheck

open Regex (language_sequence_cons language_sequence_nil language_seq language_alt language_char
  language_literal language_exact mem_language_one mem_language_one_pow)

/-! ## Places of a text -/

/-- The text from one place to another, both included, where the first character has place 1. -/
def places (first last : ℕ) (s : List Char) : List Char :=
  (s.drop (first - 1)).take (last + 1 - first)

section Places

variable {a b d : ℕ} {s : List Char}

/-- Places up to one, and from the next one on. -/
theorem places_append (ha : 1 ≤ a) (hab : a ≤ b + 1) (hbd : b ≤ d) :
    places a b s ++ places (b + 1) d s = places a d s := by
  have hstart : b + 1 - 1 = (a - 1) + (b + 1 - a) := by omega
  have hwidth : d + 1 - a = (b + 1 - a) + (d + 1 - (b + 1)) := by omega
  rw [places, places, places, hwidth, List.take_add, List.drop_drop, hstart]

theorem length_places (ha : 1 ≤ a) (hb : b ≤ s.length) : (places a b s).length = b + 1 - a := by
  rw [places, List.length_take, List.length_drop]
  omega

theorem mem_places_of_le {c : Char} (ha : 1 ≤ a) (hbd : b ≤ d) (hc : c ∈ places a b s) :
    c ∈ places 1 d s := by
  by_cases hab : a ≤ b + 1
  · have hlast : c ∈ places a d s := by
      rw [← places_append ha hab hbd]
      exact List.mem_append_left _ hc
    obtain ⟨e, rfl⟩ : ∃ e, a = e + 1 := ⟨a - 1, by omega⟩
    rw [← places_append (a := 1) (b := e) le_rfl (by omega) (by omega)]
    exact List.mem_append_right _ hlast
  · have hnone : places a b s = [] := by
      rw [places, Nat.sub_eq_zero_of_le (by omega), List.take_zero]
    rw [hnone] at hc
    cases hc

theorem places_one (s : List Char) : places 1 1 s = s.head?.toList := by
  cases s <;> rfl

/-- What is left after so many places is one character. -/
theorem exists_drop_eq_singleton_iff {n : ℕ} {P : Char → Prop} :
    (∃ c, P c ∧ s.drop n = [c]) ↔ s.length = n + 1 ∧ ∀ c ∈ places (n + 1) (n + 1) s, P c := by
  have hplace : places (n + 1) (n + 1) s = (s.drop n).take 1 := by
    rw [places, Nat.add_sub_cancel, Nat.add_sub_cancel_left]
  rw [hplace]
  constructor
  · rintro ⟨c, hc, hdrop⟩
    have hrest := congrArg List.length hdrop
    rw [List.length_drop, List.length_singleton] at hrest
    refine ⟨by omega, ?_⟩
    rw [hdrop]
    exact List.forall_mem_singleton.2 hc
  · rintro ⟨hlength, hlast⟩
    have hrest : (s.drop n).length = 1 := by
      rw [List.length_drop, hlength, Nat.add_sub_cancel_left]
    obtain ⟨c, hdrop⟩ := List.length_eq_one_iff.1 hrest
    rw [hdrop] at hlast
    exact ⟨c, List.forall_mem_singleton.1 hlast, hdrop⟩

end Places

open Numeral (decimal) in
/-- A text of eighteen characters: seventeen digits and a last character that is a digit or an `X`,
small or capital.  The first is not zero.  In places 7 to 10 stands a year from 1800 to 2099, in 11
and 12 a month from 1 to 12, and in 13 and 14 a day from 1 to 31. -/
structure IsIdentityNumber (s : List Char) : Prop where
  length_eq : s.length = 18
  digits : ∀ c ∈ places 1 17 s, c.isDigit = true
  last : ∀ c ∈ places 18 18 s, c.isDigit = true ∨ c = 'X' ∨ c = 'x'
  first_ne_zero : s.head? ≠ some '0'
  year : 1800 ≤ decimal (places 7 10 s) ∧ decimal (places 7 10 s) ≤ 2099
  month : 1 ≤ decimal (places 11 12 s) ∧ decimal (places 11 12 s) ≤ 12
  day : 1 ≤ decimal (places 13 14 s) ∧ decimal (places 13 14 s) ≤ 31

open Numeral (decimal) in
/-- A text of eleven digits, the first a 1 and the second from 3 to 9. -/
structure IsMobileNumber (s : List Char) : Prop where
  length_eq : s.length = 11
  digits : ∀ c ∈ s, c.isDigit = true
  first : s.head? = some '1'
  second : 3 ≤ decimal (places 2 2 s) ∧ decimal (places 2 2 s) ≤ 9

/-! ## Groups of digits -/

namespace Numeral

theorem decimal_append (u v : List Char) :
    decimal (u ++ v) = decimal u * 10 ^ v.length + decimal v := by
  rw [decimal, List.reverse_append, List.map_append, Nat.ofDigits_append, List.length_map,
    List.length_reverse, Nat.add_comm, Nat.mul_comm]
  rfl

theorem decimal_singleton (c : Char) : decimal [c] = digitValue c :=
  Nat.ofDigits_singleton

theorem forall_mem_digits_lt {w : List Char} (h : ∀ c ∈ w, c.isDigit = true) :
    ∀ d ∈ w.reverse.map digitValue, d < 10 := by
  intro d hd
  obtain ⟨c, hc, rfl⟩ := List.mem_map.1 hd
  exact digitValue_lt (h c (List.mem_reverse.1 hc))

/-- So many digits write a number below this power of ten. -/
theorem decimal_lt {w : List Char} (h : ∀ c ∈ w, c.isDigit = true) : decimal w < 10 ^ w.length := by
  have hlt : decimal w < 10 ^ (w.reverse.map digitValue).length :=
    Nat.ofDigits_lt_base_pow_length (by decide) (forall_mem_digits_lt h)
  rwa [List.length_map, List.length_reverse] at hlt

/-- Of so many digits, different ones write different numbers. -/
theorem decimal_inj {u w : List Char} (hu : ∀ c ∈ u, c.isDigit = true)
    (hw : ∀ c ∈ w, c.isDigit = true) (hlength : u.length = w.length)
    (h : decimal u = decimal w) : u = w := by
  have hchars {v : List Char} (hv : ∀ c ∈ v, c.isDigit = true) :
      (v.map digitValue).map Nat.digitChar = v := by
    have hmap : v.map (Nat.digitChar ∘ digitValue) = v.map id :=
      List.map_congr_left fun c hc => digitChar_digitValue (hv c hc)
    rw [List.map_map, hmap, List.map_id]
  have hvalues : u.reverse.map digitValue = w.reverse.map digitValue :=
    Nat.ofDigits_inj_of_len_eq (by decide) (by simpa using hlength)
      (forall_mem_digits_lt hu) (forall_mem_digits_lt hw) h
  rw [List.map_reverse, List.map_reverse, List.reverse_inj] at hvalues
  rw [← hchars hu, hvalues, hchars hw]

/-- The groups of so many digits that write a number between two bounds. -/
def group (width lo hi : ℕ) : Language Char :=
  {w | w.length = width ∧ (∀ c ∈ w, c.isDigit = true) ∧ lo ≤ decimal w ∧ decimal w ≤ hi}

variable {width lo hi : ℕ} {w : List Char}

theorem mem_group_iff :
    w ∈ group width lo hi ↔
      w.length = width ∧ (∀ c ∈ w, c.isDigit = true) ∧ lo ≤ decimal w ∧ decimal w ≤ hi :=
  Iff.rfl

/-- The bounds that are none. -/
theorem mem_group_free_iff :
    w ∈ group width 0 (10 ^ width - 1) ↔ w.length = width ∧ ∀ c ∈ w, c.isDigit = true := by
  rw [mem_group_iff]
  constructor
  · exact fun h => ⟨h.1, h.2.1⟩
  · rintro ⟨rfl, hdigits⟩
    exact ⟨rfl, hdigits, Nat.zero_le _, Nat.le_sub_one_of_lt (decimal_lt hdigits)⟩

/-- A group is the only one of its width with its number. -/
theorem singleton_eq_group (hw : ∀ c ∈ w, c.isDigit = true) :
    ({w} : Language Char) = group w.length (decimal w) (decimal w) := by
  ext v
  rw [mem_group_iff]
  constructor
  · rintro rfl
    exact ⟨rfl, hw, le_rfl, le_rfl⟩
  · rintro ⟨hlength, hv, hlow, hhigh⟩
    exact decimal_inj hv hw hlength (le_antisymm hhigh hlow)

/-- Groups up to a bound, and groups from the next number on. -/
theorem group_add_group {mid : ℕ} (hlo : lo ≤ mid + 1) (hhi : mid ≤ hi) :
    group width lo mid + group width (mid + 1) hi = group width lo hi := by
  ext w
  simp only [Language.mem_add, mem_group_iff, ← and_or_left]
  refine and_congr_right fun _ => and_congr_right fun _ => ?_
  omega

/-- A number in two parts lies between two bounds when the parts do.  The leading part must be fixed
unless the other may be anything, for else the numbers have gaps. -/
theorem bounds_of_parts {base a b x y : ℕ} (hgap : a = b ∨ lo = 0 ∧ hi + 1 = base) (hhi : hi < base)
    (hy : y < base) (hlow : a * base + lo ≤ x * base + y) (hhigh : x * base + y ≤ b * base + hi) :
    (a ≤ x ∧ x ≤ b) ∧ lo ≤ y ∧ y ≤ hi := by
  have hax : a < x + 1 := by
    apply Nat.lt_of_mul_lt_mul_right (a := base)
    rw [Nat.succ_mul]
    omega
  have hxb : x < b + 1 := by
    apply Nat.lt_of_mul_lt_mul_right (a := base)
    rw [Nat.succ_mul]
    omega
  refine ⟨⟨Nat.lt_succ_iff.1 hax, Nat.lt_succ_iff.1 hxb⟩, ?_⟩
  obtain rfl | ⟨rfl, hbase⟩ := hgap
  · obtain rfl : x = a := by omega
    omega
  · omega

/-- Two groups make up one. -/
theorem group_mul_group {m n a b : ℕ} (hgap : a = b ∨ lo = 0 ∧ hi + 1 = 10 ^ n)
    (hhi : hi < 10 ^ n) :
    group m a b * group n lo hi = group (m + n) (a * 10 ^ n + lo) (b * 10 ^ n + hi) := by
  ext w
  rw [Language.mem_mul]
  constructor
  · rintro ⟨u, ⟨rfl, hu, hau, hub⟩, v, ⟨rfl, hv, hlov, hvhi⟩, rfl⟩
    refine ⟨List.length_append, List.forall_mem_append.2 ⟨hu, hv⟩, ?_, ?_⟩
    · rw [decimal_append]
      exact Nat.add_le_add (Nat.mul_le_mul_right _ hau) hlov
    · rw [decimal_append]
      exact Nat.add_le_add (Nat.mul_le_mul_right _ hub) hvhi
  · rintro ⟨hlength, hw, hlow, hhigh⟩
    obtain ⟨u, v, rfl, rfl, rfl⟩ : ∃ u v, w = u ++ v ∧ u.length = m ∧ v.length = n :=
      ⟨w.take m, w.drop m, (List.take_append_drop m w).symm, by simp [hlength], by simp [hlength]⟩
    obtain ⟨hu, hv⟩ := List.forall_mem_append.1 hw
    rw [decimal_append] at hlow hhigh
    obtain ⟨⟨hau, hub⟩, hlov, hvhi⟩ := bounds_of_parts hgap hhi (decimal_lt hv) hlow hhigh
    exact ⟨u, ⟨rfl, hu, hau, hub⟩, v, ⟨rfl, hv, hlov, hvhi⟩, rfl⟩

/-- A group can be taken off the front of a text. -/
theorem mem_group_mul_iff {L : Language Char} :
    w ∈ group width lo hi * L ↔ w.take width ∈ group width lo hi ∧ w.drop width ∈ L := by
  rw [Language.mem_mul]
  constructor
  · rintro ⟨u, hu, v, hv, rfl⟩
    rw [List.take_left' hu.1, List.drop_left' hu.1]
    exact ⟨hu, hv⟩
  · rintro ⟨hfront, hrest⟩
    exact ⟨_, hfront, _, hrest, List.take_append_drop width w⟩

end Numeral

/-! ## Patterns of digits -/

namespace Format

open Numeral (group group_add_group group_mul_group digitValue)

theorem range_iff {first last c : Char} (hfirst : first.isDigit = true)
    (hlast : last.isDigit = true) :
    CharTest.range first last c = true ↔
      c.isDigit = true ∧ digitValue first ≤ digitValue c ∧ digitValue c ≤ digitValue last := by
  have hdigit (d : Char) : d.isDigit = true ↔ 48 ≤ d.toNat ∧ d.toNat ≤ 57 := Char.isDigit_iff_toNat
  have hle (d e : Char) : d ≤ e ↔ d.toNat ≤ e.toNat := UInt32.le_iff_toNat_le
  rw [hdigit] at hfirst hlast ⊢
  rw [CharTest.range, Bool.and_eq_true, decide_eq_true_iff, decide_eq_true_iff, hle, hle]
  simp only [digitValue]
  omega

/-- The digits of a range are the groups of one digit with its bounds. -/
theorem language_digitIn {first last : Char} (hfirst : first.isDigit = true)
    (hlast : last.isDigit = true) :
    (digitIn first last).language = group 1 (digitValue first) (digitValue last) := by
  ext w
  rw [digitIn, mem_language_one, Numeral.mem_group_iff]
  constructor
  · rintro ⟨c, hc, rfl⟩
    rw [range_iff hfirst hlast] at hc
    simpa [Numeral.decimal_singleton] using hc
  · rintro ⟨hlength, hdigits, hbounds⟩
    obtain ⟨c, rfl⟩ := List.length_eq_one_iff.1 hlength
    rw [Numeral.decimal_singleton] at hbounds
    exact ⟨c, (range_iff hfirst hlast).2 ⟨hdigits c (List.mem_singleton_self c), hbounds⟩, rfl⟩

theorem language_digit : digit.language = group 1 0 9 :=
  @language_digitIn '0' '9' rfl rfl

/-- Any digits of a given number. -/
theorem language_digits (n : ℕ) : (Regex.exact digit n).language = group n 0 (10 ^ n - 1) := by
  ext w
  rw [language_exact, digit, mem_language_one_pow, Numeral.mem_group_free_iff]
  rfl

/-! ## Identity cards -/

theorem year_eq_group :
    (group 2 18 18 + (group 2 19 19 + group 2 20 20)) * group 2 0 99 = group 4 1800 2099 := by
  rw [group_add_group (by norm_num) (by norm_num), group_add_group (by norm_num) (by norm_num),
    group_mul_group (.inr ⟨rfl, rfl⟩) (by norm_num)]
  rfl

theorem month_eq_group :
    group 1 0 0 * group 1 1 9 + group 1 1 1 * group 1 0 2 = group 2 1 12 := by
  calc
    _ = group 2 1 9 + group 2 10 12 := by
      rw [group_mul_group (.inl rfl) (by norm_num), group_mul_group (.inl rfl) (by norm_num)]
      rfl
    _ = group 2 1 12 := group_add_group (by norm_num) (by norm_num)

theorem day_eq_group :
    group 1 0 0 * group 1 1 9 + (group 1 1 2 * group 1 0 9 + group 1 3 3 * group 1 0 1) =
      group 2 1 31 := by
  calc
    _ = group 2 1 9 + (group 2 10 29 + group 2 30 31) := by
      rw [group_mul_group (.inl rfl) (by norm_num), group_mul_group (.inr ⟨rfl, rfl⟩) (by norm_num),
        group_mul_group (.inl rfl) (by norm_num)]
      rfl
    _ = group 2 1 31 := by
      rw [group_add_group (by norm_num) (by norm_num), group_add_group (by norm_num) (by norm_num)]

/-- **The pattern of an identity card number is a row of groups**, and a last place that may be a
letter. -/
theorem language_idCard :
    Format.idCard.body.language =
      group 1 1 9 * (group 5 0 99999 * (group 4 1800 2099 * (group 2 1 12 * (group 2 1 31 *
        (group 3 0 999 *
          (Regex.one (CharTest.union CharTest.asciiDigit (oneOf "Xx"))).language))))) := by
  rw [← year_eq_group, ← month_eq_group, ← day_eq_group]
  simp [body, language_sequence_cons, language_sequence_nil, language_seq, language_alt,
    language_char, language_literal, language_digits, language_digitIn, language_digit,
    Numeral.singleton_eq_group, Numeral.decimal, digitValue, Nat.ofDigits_cons, mul_assoc]

end Format

/-! ## The formats -/

namespace Numeral

section Places

variable {s : List Char} {n a b : ℕ} (hdigits : ∀ c ∈ places 1 n s, c.isDigit = true)
  (hn : n ≤ s.length) (ha : 1 ≤ a) (hb : b ≤ n)

include hdigits hn ha hb

/-- In a row of digits a group is known by its bounds. -/
theorem places_mem_group {lo hi : ℕ}
    (h : lo ≤ decimal (places a b s) ∧ decimal (places a b s) ≤ hi) :
    places a b s ∈ group (b + 1 - a) lo hi :=
  ⟨length_places ha (hb.trans hn), fun c hc => hdigits c (mem_places_of_le ha hb hc), h⟩

theorem places_mem_group_free : places a b s ∈ group (b + 1 - a) 0 (10 ^ (b + 1 - a) - 1) :=
  mem_group_free_iff.2
    ⟨length_places ha (hb.trans hn), fun c hc => hdigits c (mem_places_of_le ha hb hc)⟩

end Places

/-- A single digit that is not zero. -/
theorem places_one_mem_group_iff {s : List Char} :
    places 1 1 s ∈ group 1 1 9 ↔ ∃ c, s.head? = some c ∧ c.isDigit = true ∧ c ≠ '0' := by
  rw [places_one]
  cases s.head? with
  | none => simp [mem_group_iff]
  | some c =>
    rw [Option.toList_some, mem_group_iff, decimal_singleton, List.forall_mem_singleton]
    constructor
    · rintro ⟨-, hc, hlow, -⟩
      refine ⟨c, rfl, hc, ?_⟩
      rintro rfl
      exact absurd hlow (by decide)
    · rintro ⟨d, hd, hdigit, hne⟩
      cases hd
      have hvalue := digitValue_lt hdigit
      have hzero := mt (digitValue_eq_zero_iff hdigit).1 hne
      exact ⟨rfl, hdigit, by omega, by omega⟩

end Numeral

namespace Format

open Numeral (group digitValue places_mem_group places_mem_group_free places_one_mem_group_iff)

variable {s : List Char}

theorem checkCharacter_iff {c : Char} :
    CharTest.union CharTest.asciiDigit (oneOf "Xx") c = true ↔
      c.isDigit = true ∨ c = 'X' ∨ c = 'x' := by
  have hdigit : CharTest.asciiDigit c = c.isDigit := rfl
  have hmark : oneOf "Xx" c = true ↔ c ∈ ['X', 'x'] := List.contains_iff_mem
  rw [CharTest.union, Bool.or_eq_true, hdigit, hmark, List.mem_pair]

theorem idCard_accepts_iff_places :
    Format.idCard.accepts s = true ↔
      places 1 1 s ∈ group 1 1 9 ∧ places 2 6 s ∈ group 5 0 99999 ∧
        places 7 10 s ∈ group 4 1800 2099 ∧ places 11 12 s ∈ group 2 1 12 ∧
          places 13 14 s ∈ group 2 1 31 ∧ places 15 17 s ∈ group 3 0 999 ∧ s.length = 18 ∧
            ∀ c ∈ places 18 18 s, c.isDigit = true ∨ c = 'X' ∨ c = 'x' := by
  rw [accepts_iff, language_idCard]
  simp only [Numeral.mem_group_mul_iff, mem_language_one, checkCharacter_iff, List.drop_drop,
    exists_drop_eq_singleton_iff]
  rfl

/-- **The texts with the format of an identity card number.** -/
theorem idCard_accepts_iff : Format.idCard.accepts s = true ↔ IsIdentityNumber s := by
  rw [idCard_accepts_iff_places]
  constructor
  · rintro ⟨hfirst, hregion, hyear, hmonth, hday, hserial, hlength, hlast⟩
    have hrow : places 1 17 s = places 1 1 s ++ places 2 6 s ++ places 7 10 s ++ places 11 12 s ++
        places 13 14 s ++ places 15 17 s := by
      rw [places_append (by norm_num) (by norm_num) (by norm_num),
        places_append (by norm_num) (by norm_num) (by norm_num),
        places_append (by norm_num) (by norm_num) (by norm_num),
        places_append (by norm_num) (by norm_num) (by norm_num),
        places_append (by norm_num) (by norm_num) (by norm_num)]
    constructor
    case length_eq => exact hlength
    case digits =>
      simp only [hrow, List.forall_mem_append]
      exact ⟨⟨⟨⟨⟨hfirst.2.1, hregion.2.1⟩, hyear.2.1⟩, hmonth.2.1⟩, hday.2.1⟩, hserial.2.1⟩
    case last => exact hlast
    case first_ne_zero =>
      obtain ⟨d, hd, -, hne⟩ := places_one_mem_group_iff.1 hfirst
      rwa [hd, Ne, Option.some_inj]
    case year => exact hyear.2.2
    case month => exact hmonth.2.2
    case day => exact hday.2.2
  · intro h
    have hlong : 17 ≤ s.length := by
      rw [h.length_eq]
      norm_num
    refine ⟨?_, places_mem_group_free h.digits hlong (by norm_num) (by norm_num),
      places_mem_group h.digits hlong (by norm_num) (by norm_num) h.year,
      places_mem_group h.digits hlong (by norm_num) (by norm_num) h.month,
      places_mem_group h.digits hlong (by norm_num) (by norm_num) h.day,
      places_mem_group_free h.digits hlong (by norm_num) (by norm_num), h.length_eq, h.last⟩
    obtain ⟨c, t, rfl⟩ := List.exists_cons_of_length_eq_add_one h.length_eq
    have hc : c.isDigit = true := h.digits c (List.mem_cons_self ..)
    exact places_one_mem_group_iff.2 ⟨c, rfl, hc, by simpa using h.first_ne_zero⟩

/-! ## Mobile numbers -/

/-- **The pattern of a mobile number is a row of groups** and nothing after them. -/
theorem language_phone :
    Format.phone.body.language = group 1 1 1 * (group 1 3 9 * (group 9 0 999999999 * 1)) := by
  simp [body, language_sequence_cons, language_sequence_nil, language_char, language_digits,
    language_digitIn, Numeral.singleton_eq_group, Numeral.decimal, digitValue]

theorem phone_accepts_iff_places :
    Format.phone.accepts s = true ↔
      places 1 1 s ∈ group 1 1 1 ∧ places 2 2 s ∈ group 1 3 9 ∧
        places 3 11 s ∈ group 9 0 999999999 ∧ s.drop 11 = [] := by
  rw [accepts_iff, language_phone]
  simp only [Numeral.mem_group_mul_iff, Language.mem_one, List.drop_drop]
  rfl

theorem places_one_mem_one_iff : places 1 1 s ∈ group 1 1 1 ↔ s.head? = some '1' := by
  have hone : ({['1']} : Language Char) = group 1 1 1 :=
    Numeral.singleton_eq_group (w := ['1']) (by simp)
  rw [← hone, places_one, ← Option.toList_eq_singleton_iff]
  rfl

/-- **The texts with the format of a mobile number.** -/
theorem phone_accepts_iff : Format.phone.accepts s = true ↔ IsMobileNumber s := by
  rw [phone_accepts_iff_places]
  constructor
  · rintro ⟨hfirst, hsecond, hrest, hdrop⟩
    have hlength : s.length = 11 := by
      have hshort : s.length ≤ 11 := List.drop_eq_nil_iff.1 hdrop
      have hlong : (places 3 11 s).length = 9 := hrest.1
      rw [places, List.length_take, List.length_drop] at hlong
      omega
    have hrow : s = places 1 1 s ++ places 2 2 s ++ places 3 11 s := by
      rw [places_append (by norm_num) (by norm_num) (by norm_num),
        places_append (by norm_num) (by norm_num) (by norm_num)]
      exact (List.take_of_length_le hlength.le).symm
    constructor
    case length_eq => exact hlength
    case digits =>
      rw [hrow]
      simp only [List.forall_mem_append]
      exact ⟨⟨hfirst.2.1, hsecond.2.1⟩, hrest.2.1⟩
    case first => exact places_one_mem_one_iff.1 hfirst
    case second => exact hsecond.2.2
  · intro h
    have hlong : 11 ≤ s.length := h.length_eq.ge
    have hdigits : ∀ c ∈ places 1 11 s, c.isDigit = true :=
      fun c hc => h.digits c (List.mem_of_mem_take hc)
    exact ⟨places_one_mem_one_iff.2 h.first,
      places_mem_group hdigits hlong (by norm_num) (by norm_num) h.second,
      places_mem_group_free hdigits hlong (by norm_num) (by norm_num),
      List.drop_eq_nil_iff.2 h.length_eq.le⟩

end Format

/-! ## The rules -/

/-- **The rules `idcard` and `phone` accept exactly the numbers of their form**, besides the empty
text. -/
theorem Builtin.fixed_width_hold_iff (s : String) (param : List Char) :
    (Builtin.idcard.holds (.text s) param = true ↔ s = "" ∨ IsIdentityNumber s.toList) ∧
    (Builtin.phone.holds (.text s) param = true ↔ s = "" ∨ IsMobileNumber s.toList) := by
  rw [← Format.idCard_accepts_iff, ← Format.phone_accepts_iff]
  exact ⟨textPasses_iff, textPasses_iff⟩

-- The day is not held against the month: this one is a 31st of February.
example : Builtin.idcard.holds (.text "11010519900231002x") [] = true := by decide

example : Builtin.phone.holds (.text "13800138000\n") [] = false := by decide

end RecordCheck
