/-!
# Finding and replacing a piece of text

* `contains piece s` — does `piece` stand somewhere in `s`?
* `replaceAll piece new s` — `s` with every occurrence of `piece` replaced, found from left to
  right and without overlap.
* `replaceAll_append_self`, `replaceAll_append_of_not_mem` — what becomes of the piece, and of a text
  without its first character, at the front of a text.
* `replaceAll_append_cons` — a character that is not in the piece parts a text into two.
* `replaceAll_eq_self`, `count_replaceAll_lt` — a text without the piece stays, one with it loses a
  character that is not put in again.
-/

namespace RecordCheck.Text

/-- Does the piece stand somewhere in the text? -/
def contains (piece : List Char) : List Char → Bool
  | [] => piece.isEmpty
  | c :: cs => piece.isPrefixOf (c :: cs) || contains piece cs

/-- Replaces every occurrence of a piece, the first `skip` characters being the rest of an
occurrence that has been replaced already. -/
def replaceFrom (piece new : List Char) : Nat → List Char → List Char
  | _, [] => []
  | skip + 1, _ :: cs => replaceFrom piece new skip cs
  | 0, c :: cs =>
    if piece.isPrefixOf (c :: cs) then new ++ replaceFrom piece new (piece.length - 1) cs
    else c :: replaceFrom piece new 0 cs

/-- The text with every occurrence of a non-empty piece replaced, from left to right and
without overlap. -/
def replaceAll (piece new s : List Char) : List Char :=
  replaceFrom piece new 0 s

/-! ## At the front of a text -/

@[simp] theorem replaceAll_nil (piece new : List Char) : replaceAll piece new [] = [] := by
  rw [replaceAll, replaceFrom]

/-- A character at which the piece does not begin stays. -/
theorem replaceAll_cons_of_not_prefix {piece cs : List Char} {c : Char} (h : ¬ piece <+: c :: cs)
    (new : List Char) : replaceAll piece new (c :: cs) = c :: replaceAll piece new cs := by
  rw [replaceAll, replaceFrom, if_neg (mt List.isPrefixOf_iff_prefix.1 h), ← replaceAll]

/-- The rest of an occurrence is skipped. -/
theorem replaceFrom_append (piece new skipped rest : List Char) :
    replaceFrom piece new skipped.length (skipped ++ rest) = replaceAll piece new rest := by
  induction skipped with
  | nil => rfl
  | cons c cs ih => rw [List.length_cons, List.cons_append, replaceFrom, ih]

theorem replaceAll_append_self {piece : List Char} (h : piece ≠ []) (new rest : List Char) :
    replaceAll piece new (piece ++ rest) = new ++ replaceAll piece new rest := by
  obtain ⟨c, cs, rfl⟩ := List.exists_cons_of_ne_nil h
  have hprefix : (c :: cs).isPrefixOf (c :: (cs ++ rest)) = true :=
    List.isPrefixOf_iff_prefix.2 (List.prefix_append (c :: cs) rest)
  rw [replaceAll, List.cons_append, replaceFrom, if_pos hprefix, List.length_cons,
    Nat.add_sub_cancel, replaceFrom_append]

theorem replaceAll_append_of_not_mem {first : Char} {s : List Char} (h : first ∉ s)
    (piece new rest : List Char) :
    replaceAll (first :: piece) new (s ++ rest) = s ++ replaceAll (first :: piece) new rest := by
  induction s with
  | nil => rfl
  | cons c cs ih =>
    simp only [List.mem_cons, not_or] at h
    have hprefix : ¬ first :: piece <+: c :: (cs ++ rest) := by
      rw [List.cons_prefix_cons]
      exact fun hp => h.1 hp.1
    rw [List.cons_append, replaceAll_cons_of_not_prefix hprefix, ih h.2, List.cons_append]

/-! ## Apart from the ends of a text -/

/-- A text that begins with the piece followed by a character not in it begins with the piece. -/
theorem prefix_of_prefix_append_cons {piece s : List Char} {c : Char} (hc : c ∉ piece)
    {t : List Char} (h : piece <+: s ++ c :: t) : piece <+: s := by
  obtain hs | ⟨rest, rfl⟩ := List.prefix_or_prefix_of_prefix h (List.prefix_append s (c :: t))
  · exact hs
  · rw [List.prefix_append_right_inj] at h
    cases rest with
    | nil => simp
    | cons d rest =>
      obtain ⟨rfl, -⟩ := List.cons_prefix_cons.1 h
      simp at hc

theorem replaceFrom_append_cons {piece : List Char} {c : Char} (hne : piece ≠ []) (hc : c ∉ piece)
    (new t : List Char) {s : List Char} {skip : Nat} (hskip : skip ≤ s.length) :
    replaceFrom piece new skip (s ++ c :: t) =
      replaceFrom piece new skip s ++ c :: replaceAll piece new t := by
  induction s generalizing skip with
  | nil =>
    have hstart : ¬ piece <+: c :: t := fun h =>
      hne (List.prefix_nil.1 (prefix_of_prefix_append_cons hc h))
    obtain rfl : skip = 0 := Nat.le_zero.1 hskip
    exact replaceAll_cons_of_not_prefix hstart new
  | cons d ds ih =>
    cases skip with
    | succ skip => exact ih (Nat.le_of_succ_le_succ hskip)
    | zero =>
      by_cases hstart : piece <+: d :: ds
      · have hlength := hstart.length_le
        have hlong : piece.isPrefixOf (d :: (ds ++ c :: t)) = true :=
          List.isPrefixOf_iff_prefix.2 (hstart.trans (List.prefix_append (d :: ds) _))
        rw [List.cons_append, replaceFrom, if_pos hlong, replaceFrom,
          if_pos (List.isPrefixOf_iff_prefix.2 hstart), List.append_assoc, ih]
        rw [List.length_cons] at hlength
        omega
      · have hlong : ¬ piece <+: d :: (ds ++ c :: t) := fun h =>
          hstart (prefix_of_prefix_append_cons hc h)
        rw [List.cons_append, replaceFrom, if_neg (mt List.isPrefixOf_iff_prefix.1 hlong),
          replaceFrom, if_neg (mt List.isPrefixOf_iff_prefix.1 hstart), ih (Nat.zero_le _),
          List.cons_append]

/-- What stands before and after a character that is not in the piece is replaced on its own. -/
theorem replaceAll_append_cons {piece : List Char} {c : Char} (hne : piece ≠ []) (hc : c ∉ piece)
    (new s t : List Char) :
    replaceAll piece new (s ++ c :: t) = replaceAll piece new s ++ c :: replaceAll piece new t :=
  replaceFrom_append_cons hne hc new t (Nat.zero_le _)

/-- A text that does not hold the piece stays as it is. -/
theorem replaceAll_eq_self {piece s : List Char} (h : ¬ piece <:+: s) (new : List Char) :
    replaceAll piece new s = s := by
  induction s with
  | nil => exact replaceAll_nil piece new
  | cons c cs ih =>
    rw [List.infix_cons_iff, not_or] at h
    have hstep := replaceAll_cons_of_not_prefix h.1 new
    rw [hstep, ih h.2]

/-! ## How often a character occurs -/

section Count

variable {first : Char} {new : List Char} (h : first ∉ new)

include h

theorem count_replaceFrom_le (piece : List Char) (skip : Nat) (s : List Char) :
    (replaceFrom piece new skip s).count first ≤ s.count first := by
  have hnew : new.count first = 0 := List.count_eq_zero_of_not_mem h
  induction s generalizing skip with
  | nil => simp [replaceFrom]
  | cons c cs ih =>
    cases skip with
    | succ skip => exact Nat.le_trans (ih skip) List.count_le_count_cons
    | zero =>
      rw [replaceFrom]
      split
      · rw [List.count_append, hnew, Nat.zero_add]
        exact Nat.le_trans (ih _) List.count_le_count_cons
      · rw [List.count_cons, List.count_cons]
        exact Nat.add_le_add_right (ih 0) _

/-- When what is put in does not hold the first character of the piece, replacing does not make this
character more frequent. -/
theorem count_replaceAll_le (piece s : List Char) :
    (replaceAll piece new s).count first ≤ s.count first :=
  count_replaceFrom_le h piece 0 s

/-- If there is anything to replace, it makes it less frequent. -/
theorem count_replaceAll_lt {piece s : List Char} (hs : first :: piece <:+: s) :
    (replaceAll (first :: piece) new s).count first < s.count first := by
  induction s with
  | nil => exact absurd (List.infix_nil.1 hs) (List.cons_ne_nil first piece)
  | cons c cs ih =>
    by_cases hstart : first :: piece <+: c :: cs
    · obtain ⟨rfl, -⟩ := List.cons_prefix_cons.1 hstart
      rw [replaceAll, replaceFrom, if_pos (List.isPrefixOf_iff_prefix.2 hstart), List.count_append,
        List.count_eq_zero_of_not_mem h, Nat.zero_add, List.count_cons_self]
      exact Nat.lt_succ_of_le (count_replaceFrom_le h _ _ cs)
    · have hrest := (List.infix_cons_iff.1 hs).resolve_left hstart
      have hstep := replaceAll_cons_of_not_prefix hstart new
      rw [hstep, List.count_cons, List.count_cons]
      exact Nat.add_lt_add_right (ih hrest) _

end Count

end RecordCheck.Text
