import Mathlib.Data.Nat.Bitwise
import RecordCheck.Regex.Basic

/-!
# Matching finds what a pattern spans

A pattern is matched for all positions of a text at once.  A set of positions is a number whose bits
say which positions are in it, and every pattern becomes a map from the positions where it may begin
to those where it may end.  This map is the relational image under what the pattern spans, so the
matcher is sound and complete for the meaning of patterns.

* `Regex.Forward`, `Regex.spans_forward` — a pattern never spans backwards and never past the end of
  the text; so a repetition that can be had at all can be had in few steps.
* `Regex.Images` — a map of sets of positions takes every set to its image under a relation;
  `Regex.Images.exactly` and `Regex.Images.atMost` are the two loops of a repetition.
* `Regex.images_ends` — the ends of a pattern are the image of its beginnings.
* `Regex.isMatch_iff`, `Regex.isMatch_whole_iff` — a pattern matches exactly the texts in which it
  spans some part, and a pattern for whole texts those that it spans from end to end.
-/

namespace RecordCheck.Regex

/-! ## Steps of a relation -/

section Steps

variable {R : ℕ → ℕ → Prop} {i j k m n : ℕ}

/-- Some steps and then some more. -/
theorem steps_add : Steps R (m + n) i j ↔ ∃ a, Steps R m i a ∧ Steps R n a j := by
  induction m generalizing i with
  | zero => simp [Steps]
  | succ m ih =>
    rw [Nat.succ_add]
    constructor
    · rintro ⟨a, hia, hrest⟩
      obtain ⟨b, hab, hbj⟩ := ih.1 hrest
      exact ⟨b, ⟨a, hia, hab⟩, hbj⟩
    · rintro ⟨b, ⟨a, hia, hab⟩, hbj⟩
      exact ⟨a, hia, ih.2 ⟨b, hab, hbj⟩⟩

/-- The relation never leads backwards, and from the first `n` positions not beyond `n`. -/
def Forward (n : ℕ) (R : ℕ → ℕ → Prop) : Prop :=
  ∀ i j, R i j → i ≤ j ∧ j ≤ max i n

theorem Forward.steps (h : Forward n R) (k : ℕ) : Forward n (Steps R k) := by
  induction k with
  | zero =>
    rintro i j rfl
    exact ⟨le_rfl, le_max_left ..⟩
  | succ k ih =>
    rintro i j ⟨a, hia, haj⟩
    have hstep := h i a hia
    have hrest := ih a j haj
    omega

/-- Steps that stay in place can be left out, so no more are needed than there are positions. -/
theorem Forward.exists_steps_le (h : Forward n R) (hk : Steps R k i j) :
    ∃ m ≤ n, Steps R m i j := by
  suffices hshort : ∃ m ≤ j - i, Steps R m i j by
    obtain ⟨m, hm, hsteps⟩ := hshort
    have hforward := h.steps m i j hsteps
    exact ⟨m, by omega, hsteps⟩
  induction k generalizing i with
  | zero => exact ⟨0, Nat.zero_le _, hk⟩
  | succ k ih =>
    obtain ⟨a, hia, haj⟩ := hk
    have hstep := h i a hia
    have hrest := h.steps k a j haj
    obtain ⟨m, hm, hsteps⟩ := ih haj
    by_cases hstay : a = i
    · subst hstay
      exact ⟨m, hm, hsteps⟩
    · exact ⟨m + 1, by omega, a, hia, hsteps⟩

end Steps

/-! ## Sets of positions -/

/-- All positions of the set are among the first `n` or the one after them. -/
def Within (n start : ℕ) : Prop :=
  ∀ i, start.testBit i = true → i ≤ n

theorem Within.or {n s t : ℕ} (hs : Within n s) (ht : Within n t) : Within n (s ||| t) := by
  intro i hi
  rw [Nat.testBit_or, Bool.or_eq_true] at hi
  exact hi.elim (hs i) (ht i)

/-- The relation never leads backwards or out of the text, and the map takes every set of positions
to its image under it. -/
structure Images (n : ℕ) (step : ℕ → ℕ) (R : ℕ → ℕ → Prop) : Prop where
  forward : Forward n R
  testBit_iff {start : ℕ} (h : Within n start) (j : ℕ) :
    (step start).testBit j = true ↔ ∃ i, start.testBit i = true ∧ R i j

namespace Images

variable {n : ℕ} {step next : ℕ → ℕ} {R S : ℕ → ℕ → Prop}

theorem congr (h : Images n step R) (hRS : ∀ i j, R i j ↔ S i j) : Images n step S := by
  obtain rfl : R = S := funext fun i => funext fun j => propext (hRS i j)
  exact h

theorem within (h : Images n step R) {start : ℕ} (hstart : Within n start) :
    Within n (step start) := by
  intro j hj
  obtain ⟨i, hi, hij⟩ := (h.testBit_iff hstart j).1 hj
  have hle := hstart i hi
  have hforward := h.forward i j hij
  omega

/-- One map after the other. -/
theorem comp (h : Images n step R) (hnext : Images n next S) :
    Images n (fun start => next (step start)) fun i j => ∃ a, R i a ∧ S a j where
  forward := by
    rintro i j ⟨a, hia, haj⟩
    have hfirst := h.forward i a hia
    have hsecond := hnext.forward a j haj
    omega
  testBit_iff {start} hstart j := by
    rw [hnext.testBit_iff (h.within hstart)]
    constructor
    · rintro ⟨a, ha, haj⟩
      obtain ⟨i, hi, hia⟩ := (h.testBit_iff hstart a).1 ha
      exact ⟨i, hi, a, hia, haj⟩
    · rintro ⟨i, hi, a, hia, haj⟩
      exact ⟨a, (h.testBit_iff hstart a).2 ⟨i, hi, hia⟩, haj⟩

/-- Exactly `k` steps. -/
theorem exactly (h : Images n step R) (k : ℕ) : Images n (Regex.exactly step k) (Steps R k) := by
  induction k with
  | zero => exact ⟨h.forward.steps 0, fun _ j => by simp [Regex.exactly, Steps]⟩
  | succ k ih => exact h.comp ih

/-- A set to which a step adds nothing is not left by any number of steps. -/
theorem testBit_of_steps (h : Images n step R) {start k i j : ℕ} (hstart : Within n start)
    (hclosed : start ||| step start = start) (hi : start.testBit i = true) (hk : Steps R k i j) :
    start.testBit j = true := by
  induction k generalizing i with
  | zero => exact hk ▸ hi
  | succ k ih =>
    obtain ⟨a, hia, haj⟩ := hk
    refine ih ?_ haj
    rw [← hclosed, Nat.testBit_or, (h.testBit_iff hstart a).2 ⟨i, hi, hia⟩, Bool.or_true]

/-- At most `k` steps, though the loop stops as soon as a step finds nothing new. -/
theorem atMost (h : Images n step R) (k : ℕ) :
    Images n (Regex.atMost step k) fun i j => ∃ m ≤ k, Steps R m i j where
  forward := by
    rintro i j ⟨m, -, hsteps⟩
    exact h.forward.steps m i j hsteps
  testBit_iff {start} hstart j := by
    induction k generalizing start with
    | zero => simp [Regex.atMost, Steps]
    | succ k ih =>
      rw [Regex.atMost]
      split
      · next hclosed =>
        constructor
        · exact fun hj => ⟨j, hj, 0, Nat.zero_le _, rfl⟩
        · rintro ⟨i, hi, m, -, hsteps⟩
          exact h.testBit_of_steps hstart hclosed hi hsteps
      · rw [ih (hstart.or (h.within hstart))]
        simp only [Nat.testBit_or, Bool.or_eq_true, h.testBit_iff hstart]
        constructor
        · rintro ⟨a, ha | ⟨i, hi, hia⟩, m, hm, hsteps⟩
          · exact ⟨a, ha, m, by omega, hsteps⟩
          · exact ⟨i, hi, m + 1, by omega, a, hia, hsteps⟩
        · rintro ⟨i, hi, m, hm, hsteps⟩
          cases m with
          | zero => exact ⟨i, .inl hi, 0, Nat.zero_le _, hsteps⟩
          | succ m =>
            obtain ⟨a, hia, haj⟩ := hsteps
            exact ⟨a, .inr ⟨i, hi, hia⟩, m, by omega, haj⟩

end Images

/-- The positions of a text at which a condition on the characters before and after holds. -/
theorem testBit_positions (holds : Option Char → Option Char → Bool) (first : Option Char)
    (text : List Char) (i : ℕ) :
    (positions holds first text).testBit i = true ↔
      i ≤ text.length ∧ holds (if i = 0 then first else text[i - 1]?) text[i]? = true := by
  induction text generalizing first i with
  | nil =>
    cases i with
    | zero => cases h : holds first none <;> simp [positions, h]
    | succ i => cases h : holds first none <;> simp [positions, h, Nat.testBit_succ]
  | cons c cs ih =>
    cases i with
    | zero => cases h : holds first (some c) <;> simp [positions, h, Nat.testBit_zero]
    | succ i =>
      have hhalf : ((holds first (some c)).toNat + 2 * positions holds (some c) cs) / 2 =
          positions holds (some c) cs := by
        have hbit := Bool.toNat_lt (holds first (some c))
        omega
      rw [positions, Nat.testBit_succ, hhalf, ih]
      cases i <;> simp

theorem before_eq (text : List Char) (i : ℕ) :
    before text i = if i = 0 then none else text[i - 1]? := by
  cases i <;> rfl

/-! ## Patterns -/

variable (text : List Char)

/-- A pattern never spans backwards, and never past the end of the text. -/
theorem spans_forward (r : Regex) : Forward text.length (Spans text r) := by
  induction r with
  | empty =>
    rintro i j rfl
    exact ⟨le_rfl, le_max_left ..⟩
  | one test =>
    rintro i j ⟨rfl, c, hc, -⟩
    have hi : i < text.length := (List.getElem?_eq_some_iff.1 hc).1
    omega
  | anchor a =>
    rintro i j ⟨rfl, -⟩
    exact ⟨le_rfl, le_max_left ..⟩
  | seq r s ihr ihs =>
    rintro i j ⟨m, hm, hj⟩
    have hfirst := ihr i m hm
    have hsecond := ihs m j hj
    omega
  | alt r s ihr ihs =>
    rintro i j (h | h)
    · exact ihr i j h
    · exact ihs i j h
  | times r min max ih =>
    rintro i j ⟨k, -, -, hsteps⟩
    exact ih.steps k i j hsteps

/-- A pattern repeated at least so often: first these repetitions, then as many as there are
positions in the text. -/
theorem spans_times_none {r : Regex} {min i j : ℕ} :
    Spans text (.times r min none) i j ↔
      ∃ a, Steps (Spans text r) min i a ∧ ∃ m ≤ text.length, Steps (Spans text r) m a j := by
  constructor
  · rintro ⟨k, hmin, -, hsteps⟩
    obtain ⟨more, rfl⟩ := Nat.exists_eq_add_of_le hmin
    obtain ⟨a, hia, haj⟩ := steps_add.1 hsteps
    exact ⟨a, hia, (spans_forward text r).exists_steps_le haj⟩
  · rintro ⟨a, hia, m, -, haj⟩
    exact ⟨min + m, Nat.le_add_right .., by simp, steps_add.2 ⟨a, hia, haj⟩⟩

/-- The same when there is a bound that is not below the least number. -/
theorem spans_times_some {r : Regex} {min max i j : ℕ} (h : min ≤ max) :
    Spans text (.times r min (some max)) i j ↔
      ∃ a, Steps (Spans text r) min i a ∧ ∃ m ≤ max - min, Steps (Spans text r) m a j := by
  constructor
  · rintro ⟨k, hmin, hmax, hsteps⟩
    obtain ⟨more, rfl⟩ := Nat.exists_eq_add_of_le hmin
    obtain ⟨a, hia, haj⟩ := steps_add.1 hsteps
    have hle : min + more ≤ max := hmax max rfl
    exact ⟨a, hia, more, by omega, haj⟩
  · rintro ⟨a, hia, m, hm, haj⟩
    refine ⟨min + m, Nat.le_add_right .., ?_, steps_add.2 ⟨a, hia, haj⟩⟩
    intro bound hbound
    cases hbound
    omega

/-- A repetition whose bound is below the least number spans nothing. -/
theorem not_spans_times {r : Regex} {min max i j : ℕ} (h : max < min) :
    ¬ Spans text (.times r min (some max)) i j := by
  rintro ⟨k, hmin, hmax, -⟩
  have hle : k ≤ max := hmax max rfl
  omega

/-- **The ends of a pattern are the image of its beginnings** under what it spans. -/
theorem images_ends (r : Regex) : Images text.length (ends text r) (Spans text r) := by
  refine ⟨spans_forward text r, ?_⟩
  induction r with
  | empty =>
    intro start _ j
    simp [ends, Spans]
  | one test =>
    intro start _ j
    cases j with
    | zero => simp [ends, Spans]
    | succ j =>
      simp only [ends, Nat.testBit_shiftLeft, Nat.testBit_and, Spans, Bool.and_eq_true,
        testBit_positions]
      constructor
      · rintro ⟨-, hstart, -, hc⟩
        rw [Nat.add_sub_cancel] at hstart hc
        exact ⟨j, hstart, rfl, (Option.any_eq_true _ _).1 hc⟩
      · rintro ⟨i, hstart, hij, c, hc, htest⟩
        obtain rfl : j = i := Nat.succ_inj.1 hij
        have hj : j < text.length := (List.getElem?_eq_some_iff.1 hc).1
        exact ⟨by simp, hstart, Nat.le_of_lt hj, by simp [hc, htest]⟩
  | anchor a =>
    intro start hwithin j
    simp only [ends, Nat.testBit_and, Spans, Bool.and_eq_true, testBit_positions, ← before_eq]
    constructor
    · rintro ⟨hstart, -, ha⟩
      exact ⟨j, hstart, rfl, ha⟩
    · rintro ⟨i, hstart, rfl, ha⟩
      exact ⟨hstart, hwithin i hstart, ha⟩
  | seq r s ihr ihs =>
    exact (Images.comp ⟨spans_forward text r, ihr⟩ ⟨spans_forward text s, ihs⟩).testBit_iff
  | alt r s ihr ihs =>
    intro start hwithin j
    simp only [ends, Nat.testBit_or, Bool.or_eq_true, ihr hwithin, ihs hwithin, Spans, and_or_left,
      exists_or]
  | times r min max ih =>
    have hr : Images text.length (ends text r) (Spans text r) := ⟨spans_forward text r, ih⟩
    intro start hwithin j
    cases max with
    | none =>
      exact (((hr.exactly min).comp (hr.atMost text.length)).congr fun i j =>
        (spans_times_none text).symm).testBit_iff hwithin j
    | some max =>
      by_cases hbound : max < min
      · simp [ends, hbound, not_spans_times text hbound]
      · have hloops := ((hr.exactly min).comp (hr.atMost (max - min))).congr fun i j =>
          (spans_times_some text (Nat.not_lt.1 hbound)).symm
        rw [← hloops.testBit_iff hwithin]
        simp only [ends, Option.any_some, hbound, decide_false, Bool.false_eq_true, if_false]

/-! ## Texts -/

/-- A pattern matches exactly the texts in which it spans some part. -/
theorem isMatch_iff {r : Regex} {text : List Char} :
    r.isMatch text = true ↔ ∃ i ≤ text.length, ∃ j, Spans text r i j := by
  have hall (i : ℕ) : (Nat.pow 2 (text.length + 1) - 1).testBit i = true ↔ i ≤ text.length := by
    have hbit : (2 ^ (text.length + 1) - 1).testBit i = decide (i < text.length + 1) :=
      Nat.testBit_two_pow_sub_one ..
    exact (Bool.eq_iff_iff.1 hbit).trans (decide_eq_true_iff.trans Nat.lt_succ_iff)
  have hends := (images_ends text r).testBit_iff fun i hi => (hall i).1 hi
  rw [isMatch, bne_iff_ne]
  constructor
  · intro hne
    obtain ⟨j, hj⟩ := Nat.exists_testBit_of_ne_zero hne
    obtain ⟨i, hi, hij⟩ := (hends j).1 hj
    exact ⟨i, (hall i).1 hi, j, hij⟩
  · rintro ⟨i, hi, j, hij⟩ hzero
    have hj := (hends j).2 ⟨i, (hall i).2 hi, hij⟩
    rw [hzero, Nat.zero_testBit] at hj
    cases hj

/-- A pattern for whole texts matches exactly those that it spans from end to end. -/
theorem isMatch_whole_iff {r : Regex} {text : List Char} :
    (whole r).isMatch text = true ↔ Spans text r 0 text.length := by
  rw [isMatch_iff]
  constructor
  · rintro ⟨i, hi, j, m, ⟨rfl, hfirst⟩, a, hspans, rfl, hlast⟩
    obtain rfl : i = 0 := by
      rw [Anchor.holds, before_eq, Option.isNone_iff_eq_none] at hfirst
      by_contra hi0
      rw [if_neg hi0, List.getElem?_eq_none_iff] at hfirst
      omega
    rw [Anchor.holds, Option.isNone_iff_eq_none, List.getElem?_eq_none_iff] at hlast
    have hforward := spans_forward text r 0 a hspans
    obtain rfl : a = text.length := by omega
    exact hspans
  · intro h
    refine ⟨0, Nat.zero_le _, text.length, 0, ⟨rfl, rfl⟩, text.length, h, rfl, ?_⟩
    rw [Anchor.holds, Option.isNone_iff_eq_none, List.getElem?_eq_none_iff]

end RecordCheck.Regex
