/-!
# Splitting a text at a character

* `sep_not_mem_of_mem_splitOn` — the pieces of a text between separators hold no separator.
* `cutAt sep s` — the text before the first `sep` and, when there is one, the text after it;
  together they are `s` (`append_cutAt`).
* `halves sep s` — the two sides of a text that holds `sep` exactly once (`halves_eq_some_iff`,
  `halves_of_count`).
-/

namespace RecordCheck.Text

/-- The text before the first separator, and the text after it if there is one. -/
def cutAt (sep : Char) : List Char → List Char × Option (List Char)
  | [] => ([], none)
  | c :: cs =>
    if c = sep then ([], some cs)
    else ((c :: (cutAt sep cs).1), (cutAt sep cs).2)

/-- The two sides of a text that holds the separator exactly once. -/
def halves (sep : Char) (s : List Char) : Option (List Char × List Char) :=
  match s.splitOn sep with
  | [lo, hi] => some (lo, hi)
  | _ => none

/-! ## Pieces -/

/-- No piece holds the separator. -/
theorem sep_not_mem_of_mem_splitOn {sep : Char} {s piece : List Char}
    (h : piece ∈ s.splitOn sep) : sep ∉ piece := by
  induction s generalizing piece with
  | nil =>
    rw [List.splitOn_nil, List.mem_singleton] at h
    rw [h]
    exact List.not_mem_nil
  | cons c cs ih =>
    rw [List.splitOn_cons_eq_if_modifyHead] at h
    split at h
    · obtain rfl | h := List.mem_cons.1 h
      · exact List.not_mem_nil
      · exact ih h
    · next hc =>
      rw [beq_iff_eq] at hc
      cases hs : cs.splitOn sep with
      | nil => exact absurd hs (List.splitOn_ne_nil sep cs)
      | cons first rest =>
        rw [hs] at h ih
        obtain rfl | h := List.mem_cons.1 h
        · rw [List.mem_cons, not_or]
          exact ⟨Ne.symm hc, ih (List.mem_cons_self ..)⟩
        · exact ih (List.mem_cons_of_mem _ h)

/-! ## Two sides -/

/-- A text has two sides when it holds the separator exactly once; they stand before and after
it. -/
theorem halves_eq_some_iff {sep : Char} {s lo hi : List Char} :
    halves sep s = some (lo, hi) ↔ s = lo ++ sep :: hi ∧ sep ∉ lo ∧ sep ∉ hi := by
  constructor
  · intro h
    unfold halves at h
    split at h
    · next lo' hi' hs =>
      cases h
      have hjoin : [sep].intercalate (s.splitOn sep) = s := List.intercalate_splitOn sep
      rw [hs, List.intercalate_cons_cons, List.intercalate_singleton, List.append_assoc] at hjoin
      refine ⟨hjoin.symm, ?_, ?_⟩
      · exact sep_not_mem_of_mem_splitOn (s := s) (by rw [hs]; exact List.mem_cons_self ..)
      · exact sep_not_mem_of_mem_splitOn (s := s) (by rw [hs]; simp)
    · cases h
  · rintro ⟨rfl, hlo, hhi⟩
    rw [halves, List.splitOn_append_cons_self_of_not_mem hlo, List.splitOn_eq_singleton hhi]

theorem halves_eq_none {sep : Char} {s : List Char} (h : s.count sep ≠ 1) :
    halves sep s = none := by
  cases hs : halves sep s with
  | none => rfl
  | some sides =>
    obtain ⟨rfl, hlo, hhi⟩ := halves_eq_some_iff.1 hs
    simp [List.count_eq_zero_of_not_mem hlo, List.count_eq_zero_of_not_mem hhi] at h

theorem halves_of_count {sep : Char} {s : List Char} (h : s.count sep = 1) :
    halves sep s = some (s.takeWhile (· != sep), (s.dropWhile (· != sep)).tail) := by
  have hmem : sep ∈ s := List.count_pos_iff.1 (by omega)
  obtain ⟨lo, hi, rfl, hlo⟩ := List.eq_append_cons_of_mem hmem
  have hhi : sep ∉ hi := by
    rw [List.count_append, List.count_cons_self, List.count_eq_zero_of_not_mem hlo] at h
    exact List.count_eq_zero.1 (by omega)
  have hpass : ∀ c ∈ lo, (c != sep) = true := by
    intro c hc
    rw [bne_iff_ne]
    rintro rfl
    exact hlo hc
  rw [List.takeWhile_append_of_pos hpass, List.dropWhile_append_of_pos hpass,
    List.takeWhile_cons_of_neg (by simp), List.dropWhile_cons_of_neg (by simp), List.append_nil,
    List.tail_cons]
  exact halves_eq_some_iff.2 ⟨rfl, hlo, hhi⟩

/-! ## What a cut leaves -/

/-- The two parts of a cut make up the text. -/
theorem append_cutAt (sep : Char) (s : List Char) :
    (cutAt sep s).1 ++ ((cutAt sep s).2.map (sep :: ·)).getD [] = s := by
  induction s with
  | nil => rfl
  | cons c cs ih =>
    rw [cutAt]
    split
    · next h => simp [h]
    · rw [List.cons_append, ih]

/-- The first part of a cut does not hold the separator. -/
theorem sep_not_mem_cutAt (sep : Char) (s : List Char) : sep ∉ (cutAt sep s).1 := by
  induction s with
  | nil => simp [cutAt]
  | cons c cs ih =>
    rw [cutAt]
    split
    · simp
    · next h => simpa [Ne.symm h] using ih

/-- The first part of a cut is the longest beginning without the separator. -/
theorem fst_cutAt (sep : Char) (s : List Char) : (cutAt sep s).1 = s.takeWhile (· != sep) := by
  induction s with
  | nil => rfl
  | cons c cs ih =>
    rw [cutAt, List.takeWhile_cons]
    split
    · next h => simp [h]
    · next h => simp [h, ih]

theorem cutAt_of_not_mem {sep : Char} {s : List Char} (h : sep ∉ s) :
    cutAt sep s = (s, none) := by
  induction s with
  | nil => rfl
  | cons c cs ih =>
    simp only [List.mem_cons, not_or] at h
    rw [cutAt, if_neg (Ne.symm h.1), ih h.2]

theorem cutAt_append {sep : Char} {s : List Char} (h : sep ∉ s) (rest : List Char) :
    cutAt sep (s ++ sep :: rest) = (s, some rest) := by
  induction s with
  | nil => rw [List.nil_append, cutAt, if_pos rfl]
  | cons c cs ih =>
    simp only [List.mem_cons, not_or] at h
    rw [List.cons_append, cutAt, if_neg (Ne.symm h.1), ih h.2]

end RecordCheck.Text
