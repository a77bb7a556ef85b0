import Mathlib.Data.List.DropRight
import RecordCheck.Proofs.Address

/-!
# Mail addresses

The pattern of a mail address asks for a point and some letters at the end, but points may stand
anywhere in the host before them.  Still there is only one way to read a text: no part allows the `@`
itself, so there is exactly one, and the letters hold no point, so theirs is the last one.  The rule
`email` is described here by these two places.

* `Text.beforeLast`, `Text.afterLast` — what stands on either side of the last separator.
* `Mailbox.user`, `Mailbox.host`, `Mailbox.name`, `Mailbox.zone` — the parts of a mail address.
* `IsMailbox` — what is asked of each part, and `IsMailbox.append`, `IsMailbox.append_parts` — a mail
  address is made up of parts like these.
* `Format.email_accepts_iff`, `Builtin.email_holds_iff` — the format and the rule accept exactly these
  texts.
-/

namespace RecordCheck

/-! ## The last separator -/

namespace Text

variable {sep : Char} {s t : List Char}

/-- The text before the last separator; nothing if there is none. -/
def beforeLast (sep : Char) (s : List Char) : List Char :=
  (s.rdropWhile (· != sep)).dropLast

/-- The text after the last separator; all of it if there is none. -/
def afterLast (sep : Char) (s : List Char) : List Char :=
  s.rtakeWhile (· != sep)

theorem bne_of_not_mem (h : sep ∉ t) : ∀ c ∈ t, (c != sep) = true := by
  intro c hc
  rw [bne_iff_ne]
  rintro rfl
  exact h hc

theorem afterLast_append (h : sep ∉ t) : afterLast sep (s ++ sep :: t) = t := by
  have hpass : ∀ c ∈ t.reverse, (c != sep) = true := bne_of_not_mem (by simpa using h)
  rw [afterLast, List.rtakeWhile, List.reverse_append, List.reverse_cons, List.append_assoc,
    List.takeWhile_append_of_pos hpass, List.singleton_append, List.takeWhile_cons_of_neg (by simp),
    List.append_nil, List.reverse_reverse]

theorem beforeLast_append (h : sep ∉ t) : beforeLast sep (s ++ sep :: t) = s := by
  have hpass : ∀ c ∈ t.reverse, (c != sep) = true := bne_of_not_mem (by simpa using h)
  rw [beforeLast, List.rdropWhile, List.reverse_append, List.reverse_cons, List.append_assoc,
    List.dropWhile_append_of_pos hpass, List.singleton_append, List.dropWhile_cons_of_neg (by simp),
    List.reverse_cons, List.reverse_reverse, List.dropLast_concat]

/-- Where there is a separator, the text is made up of its two sides. -/
theorem beforeLast_append_afterLast (h : sep ∈ s) :
    beforeLast sep s ++ sep :: afterLast sep s = s := by
  obtain ⟨u, v, hs, hu⟩ := List.eq_append_cons_of_mem (List.mem_reverse.2 h)
  obtain rfl : s = v.reverse ++ sep :: u.reverse := by
    rw [← List.reverse_reverse s, hs]
    simp
  have hlast : sep ∉ u.reverse := by simpa using hu
  rw [beforeLast_append hlast, afterLast_append hlast]

end Text

/-! ## The parts of a mail address -/

namespace Mailbox

variable {s : List Char}

/-- The text before the first `@`. -/
def user (s : List Char) : List Char :=
  (Text.cutAt '@' s).1

/-- The text after the first `@`. -/
def host (s : List Char) : List Char :=
  (Text.cutAt '@' s).2.getD []

/-- The host up to its last point. -/
def name (s : List Char) : List Char :=
  Text.beforeLast '.' (host s)

/-- The host after its last point. -/
def zone (s : List Char) : List Char :=
  Text.afterLast '.' (host s)

/-- The characters besides ASCII letters and digits that a user may have. -/
def userSigns : List Char := ['.', '_', '%', '+', '-']

/-- The characters besides ASCII letters and digits that a host may have. -/
def hostSigns : List Char := ['.', '-']

theorem user_append_host (h : '@' ∈ s) : user s ++ '@' :: host s = s := by
  have hparts := Text.append_cutAt '@' s
  rw [user, host]
  cases hrest : (Text.cutAt '@' s).2 with
  | some rest => simpa [hrest] using hparts
  | none =>
    have hnot := Text.sep_not_mem_cutAt '@' s
    rw [hrest, Option.map_none, Option.getD_none, List.append_nil] at hparts
    rw [hparts] at hnot
    exact absurd h hnot

section Append

variable {u n z : List Char} (hu : '@' ∉ u)

include hu

theorem user_append (rest : List Char) : user (u ++ '@' :: rest) = u := by
  rw [user, Text.cutAt_append hu]

theorem host_append (rest : List Char) : host (u ++ '@' :: rest) = rest := by
  rw [host, Text.cutAt_append hu, Option.getD_some]

theorem name_append (hz : '.' ∉ z) : name (u ++ '@' :: (n ++ '.' :: z)) = n := by
  rw [name, host_append hu, Text.beforeLast_append hz]

theorem zone_append (hz : '.' ∉ z) : zone (u ++ '@' :: (n ++ '.' :: z)) = z := by
  rw [zone, host_append hu, Text.afterLast_append hz]

end Append

end Mailbox

open Mailbox in
/-- The text has exactly one `@`.  Before it stands a user of ASCII letters, digits and the signs of
users, at least one; after it a host of ASCII letters, digits and the signs of hosts.  The host has a
point; something stands before the last one, and after it two or more characters, all of them ASCII
letters. -/
structure IsMailbox (s : List Char) : Prop where
  one_at : s.count '@' = 1
  user_ne_nil : user s ≠ []
  user_chars : ∀ c ∈ user s, c.isAlphanum = true ∨ c ∈ userSigns
  host_chars : ∀ c ∈ host s, c.isAlphanum = true ∨ c ∈ hostSigns
  point_mem : '.' ∈ host s
  name_ne_nil : name s ≠ []
  two_le_zone : 2 ≤ (zone s).length
  zone_letters : ∀ c ∈ zone s, c.isAlpha = true

theorem at_not_mem_of_chars {w marks : List Char} (hmarks : '@' ∉ marks)
    (h : ∀ c ∈ w, c.isAlphanum = true ∨ c ∈ marks) : '@' ∉ w := by
  intro hat
  rcases h '@' hat with hchar | hmark
  · exact absurd hchar (by decide)
  · exact hmarks hmark

theorem point_not_mem_of_letters {w : List Char} (h : ∀ c ∈ w, c.isAlpha = true) : '.' ∉ w := by
  intro hpoint
  exact absurd (h '.' hpoint) (by decide)

namespace IsMailbox

open Mailbox

variable {s u n z : List Char}

/-- Parts that are as asked make up a mail address. -/
theorem append (hu : u ≠ []) (huchars : ∀ c ∈ u, c.isAlphanum = true ∨ c ∈ userSigns)
    (hn : n ≠ []) (hnchars : ∀ c ∈ n, c.isAlphanum = true ∨ c ∈ hostSigns)
    (hlong : 2 ≤ z.length) (hz : ∀ c ∈ z, c.isAlpha = true) :
    IsMailbox (u ++ '@' :: (n ++ '.' :: z)) := by
  have hzchars : ∀ c ∈ z, c.isAlphanum = true ∨ c ∈ hostSigns := by
    intro c hc
    left
    rw [Char.isAlphanum, hz c hc, Bool.true_or]
  have hhostchars : ∀ c ∈ n ++ '.' :: z, c.isAlphanum = true ∨ c ∈ hostSigns := by
    rw [List.forall_mem_append, List.forall_mem_cons]
    exact ⟨hnchars, .inr (by decide), hzchars⟩
  have hatuser : '@' ∉ u := at_not_mem_of_chars (by decide) huchars
  have hathost : '@' ∉ n ++ '.' :: z := at_not_mem_of_chars (by decide) hhostchars
  have hpoint : '.' ∉ z := point_not_mem_of_letters hz
  constructor
  case one_at =>
    rw [List.count_append, List.count_cons_self, List.count_eq_zero_of_not_mem hatuser,
      List.count_eq_zero_of_not_mem hathost]
  case user_ne_nil => rwa [user_append hatuser]
  case user_chars => rwa [user_append hatuser]
  case host_chars => rwa [host_append hatuser]
  case point_mem =>
    rw [host_append hatuser]
    simp
  case name_ne_nil => rwa [name_append hatuser hpoint]
  case two_le_zone => rwa [zone_append hatuser hpoint]
  case zone_letters => rwa [zone_append hatuser hpoint]

variable (h : IsMailbox s)

include h

theorem name_append_zone : name s ++ '.' :: zone s = host s :=
  Text.beforeLast_append_afterLast h.point_mem

/-- A mail address is made up of its parts. -/
theorem append_parts : user s ++ '@' :: (name s ++ '.' :: zone s) = s := by
  have hat : '@' ∈ s := List.count_pos_iff.1 (by rw [h.one_at]; exact Nat.one_pos)
  rw [h.name_append_zone, user_append_host hat]

theorem name_chars : ∀ c ∈ name s, c.isAlphanum = true ∨ c ∈ hostSigns := by
  intro c hc
  have hmem : c ∈ name s ++ '.' :: zone s := List.mem_append_left _ hc
  rw [h.name_append_zone] at hmem
  exact h.host_chars c hmem

end IsMailbox

/-! ## The format -/

namespace Format

open Mailbox
open Regex (language_sequence_cons language_sequence_nil language_char mem_language_times_one
  mem_oneOrMore_one_mul mem_singleton_mul)

theorem userChar_iff {c : Char} :
    CharTest.union asciiAlnum (oneOf "._%+-") c = true ↔ c.isAlphanum = true ∨ c ∈ userSigns := by
  rw [CharTest.union, Bool.or_eq_true, asciiAlnum_eq_isAlphanum]
  exact or_congr_right List.contains_iff_mem

theorem hostChar_iff {c : Char} :
    CharTest.union asciiAlnum (oneOf ".-") c = true ↔ c.isAlphanum = true ∨ c ∈ hostSigns := by
  rw [CharTest.union, Bool.or_eq_true, asciiAlnum_eq_isAlphanum]
  exact or_congr_right List.contains_iff_mem

/-- What the pattern asks for: some parts with an `@` and a point between them, without saying which
point of the text this is. -/
theorem email_accepts_iff_exists {s : List Char} :
    Format.email.accepts s = true ↔ ∃ u n z, s = u ++ '@' :: (n ++ '.' :: z) ∧
      (u ≠ [] ∧ ∀ c ∈ u, c.isAlphanum = true ∨ c ∈ userSigns) ∧
      (n ≠ [] ∧ ∀ c ∈ n, c.isAlphanum = true ∨ c ∈ hostSigns) ∧
      2 ≤ z.length ∧ ∀ c ∈ z, c.isAlpha = true := by
  rw [accepts_iff]
  simp only [body, language_sequence_cons, language_sequence_nil, language_char, mul_one,
    mem_oneOrMore_one_mul, mem_singleton_mul, mem_language_times_one, userChar_iff, hostChar_iff,
    asciiLetter_eq_isAlpha]
  constructor
  · rintro ⟨u, hu, _, ⟨_, ⟨n, hn, _, ⟨z, ⟨hlong, -, hz⟩, rfl⟩, rfl⟩, rfl⟩, rfl⟩
    exact ⟨u, n, z, rfl, hu, hn, hlong, hz⟩
  · rintro ⟨u, n, z, rfl, hu, hn, hlong, hz⟩
    exact ⟨u, hu, _, ⟨_, ⟨n, hn, _, ⟨z, ⟨hlong, by simp, hz⟩, rfl⟩, rfl⟩, rfl⟩, rfl⟩

/-- **The texts with the format of a mail address.**  The point at which the zone begins can only be
the last one. -/
theorem email_accepts_iff {s : List Char} : Format.email.accepts s = true ↔ IsMailbox s := by
  rw [email_accepts_iff_exists]
  constructor
  · rintro ⟨u, n, z, rfl, ⟨hu, huchars⟩, ⟨hn, hnchars⟩, hlong, hz⟩
    exact .append hu huchars hn hnchars hlong hz
  · intro h
    exact ⟨user s, name s, zone s, h.append_parts.symm, ⟨h.user_ne_nil, h.user_chars⟩,
      ⟨h.name_ne_nil, h.name_chars⟩, h.two_le_zone, h.zone_letters⟩

end Format

/-! ## The rule -/

/-- **The rule `email` accepts exactly the mail addresses**, besides the empty text. -/
theorem Builtin.email_holds_iff (s : String) (param : List Char) :
    Builtin.email.holds (.text s) param = true ↔ s = "" ∨ IsMailbox s.toList := by
  have hrule : Builtin.email.holds (.text s) param =
      textPasses Format.email.accepts (.text s) := rfl
  rw [hrule, textPasses_iff, Format.email_accepts_iff]

example : Builtin.email.holds (.text "a.b+c@d..e-f.co") [] = true := by decide

example : Builtin.email.holds (.text "a@b.c@d.co") [] = false := by decide

end RecordCheck
