import RecordCheck.Record

/-!
# Labels of fields

A field is named in messages by its label, else by its serialization name up to the first comma, else
by its declared name.  Empty texts and a `-` in place of the serialization name are passed over, but
they are looked for before the serialization name is cut, so one that begins with a comma leaves
nothing and still counts.

* `Field.firstUsable` — the label, the cut serialization name and the declared name in this order,
  with what is passed over looked for after the cut.
* `Field.ShowsUnusable` — the fields that are named by a cut which ought to be passed over.
* `Field.displayLabel_of_showsUnusable` — the two names differ for these fields only, and
  `Field.displayLabel_ne_firstUsable` — that they do differ.
-/

namespace RecordCheck.Field

/-- The text before the first comma. -/
def beforeComma (s : String) : String :=
  String.ofList (s.toList.takeWhile (· != ','))

/-- The first candidate that is there and usable: the label unless it is empty, the serialization
name up to its first comma unless this is empty or `-`, and the declared name. -/
def firstUsable (f : Field) : String :=
  ((f.label.filter (· ≠ "")).or
    ((f.serialName.map beforeComma).filter fun s => s ≠ "" ∧ s ≠ "-")).getD f.name

/-- The field has no label that is not empty, and its serialization name has a comma after nothing
or after `-`. -/
structure ShowsUnusable (f : Field) (cut : String) : Prop where
  unlabeled : ∀ label ∈ f.label, label = ""
  unusable : cut = "" ∨ cut = "-"
  serial : ∃ options, f.serialName = some (cut ++ "," ++ options)

/-! ## Cutting a serialization name -/

theorem beforeComma_eq (s : String) :
    beforeComma s = String.ofList (Text.cutAt ',' s.toList).1 := by
  rw [beforeComma, Text.fst_cutAt]

theorem beforeComma_append {cut : String} (h : ',' ∉ cut.toList) (options : String) :
    beforeComma (cut ++ "," ++ options) = cut := by
  have hlist : (cut ++ "," ++ options).toList = cut.toList ++ ',' :: options.toList := by simp
  rw [beforeComma_eq, hlist, Text.cutAt_append h, String.ofList_toList]

/-- A text that a cut shortens goes on with a comma. -/
theorem eq_beforeComma_or (s : String) :
    s = beforeComma s ∨ ∃ options, s = beforeComma s ++ "," ++ options := by
  have hparts := Text.append_cutAt ',' s.toList
  rw [beforeComma_eq]
  cases hrest : (Text.cutAt ',' s.toList).2 with
  | none =>
    left
    rw [hrest] at hparts
    apply String.toList_injective
    simpa using hparts.symm
  | some rest =>
    right
    rw [hrest] at hparts
    refine ⟨String.ofList rest, String.toList_injective ?_⟩
    simpa using hparts.symm

/-! ## The first usable candidate -/

theorem labeled_or_unlabeled (f : Field) :
    (∃ label, f.label = some label ∧ label ≠ "") ∨ ∀ label ∈ f.label, label = "" := by
  cases hlabel : f.label with
  | none => right; simp
  | some label =>
    by_cases hempty : label = ""
    · right; simpa using hempty
    · left; exact ⟨label, rfl, hempty⟩

theorem displayLabel_of_label {f : Field} {label : String} (h : f.label = some label)
    (hne : label ≠ "") : f.displayLabel = label ∧ f.firstUsable = label := by
  constructor
  · simp [displayLabel, h, hne]
  · simp [firstUsable, Option.filter, h, hne]

theorem displayLabel_of_unlabeled {f : Field} (h : ∀ label ∈ f.label, label = "") :
    f.displayLabel = displayLabel.fromSerial f f.serialName := by
  cases hlabel : f.label with
  | none => simp [displayLabel, hlabel]
  | some label => simp [displayLabel, hlabel, h label hlabel]

theorem firstUsable_of_unlabeled {f : Field} (h : ∀ label ∈ f.label, label = "") :
    f.firstUsable =
      ((f.serialName.map beforeComma).filter fun s => s ≠ "" ∧ s ≠ "-").getD f.name := by
  have hlabel : f.label.filter (· ≠ "") = none := by
    rw [Option.filter_eq_none_iff]
    simpa using h
  rw [firstUsable, hlabel, Option.none_or]

/-- Without a label, the name in messages looks for what is passed over before the cut. -/
theorem displayLabel_of_serial {f : Field} (h : ∀ label ∈ f.label, label = "") {s : String}
    (hs : f.serialName = some s) :
    f.displayLabel = if s = "" ∨ s = "-" then f.name else beforeComma s := by
  rw [displayLabel_of_unlabeled h, hs]
  simp [displayLabel.fromSerial, beforeComma_eq]

/-- Without a label, the first usable candidate looks for it after the cut. -/
theorem firstUsable_of_serial {f : Field} (h : ∀ label ∈ f.label, label = "") {s : String}
    (hs : f.serialName = some s) :
    f.firstUsable =
      if beforeComma s = "" ∨ beforeComma s = "-" then f.name else beforeComma s := by
  rw [firstUsable_of_unlabeled h, hs, Option.map_some]
  by_cases hcut : beforeComma s = "" ∨ beforeComma s = "-"
  · rw [if_pos hcut, Option.filter_some_neg (by simpa [Classical.or_iff_not_imp_left] using hcut),
      Option.getD_none]
  · rw [if_neg hcut, Option.filter_some_pos (by simpa using hcut), Option.getD_some]

/-! ## Where the two names differ -/

theorem comma_not_mem_of_unusable {s : String} (h : s = "" ∨ s = "-") : ',' ∉ s.toList := by
  obtain rfl | rfl := h <;> decide

/-- A serialization name with a comma in it is neither empty nor `-`, so its cut is taken as it is. -/
theorem ShowsUnusable.displayLabel_eq {f : Field} {cut : String} (h : f.ShowsUnusable cut) :
    f.displayLabel = cut := by
  obtain ⟨options, hs⟩ := h.serial
  have hcomma : ',' ∈ (cut ++ "," ++ options).toList := by simp
  rw [displayLabel_of_serial h.unlabeled hs,
    if_neg fun hunusable => comma_not_mem_of_unusable hunusable hcomma,
    beforeComma_append (comma_not_mem_of_unusable h.unusable)]

theorem ShowsUnusable.firstUsable_eq {f : Field} {cut : String} (h : f.ShowsUnusable cut) :
    f.firstUsable = f.name := by
  obtain ⟨options, hs⟩ := h.serial
  rw [firstUsable_of_serial h.unlabeled hs,
    beforeComma_append (comma_not_mem_of_unusable h.unusable), if_pos h.unusable]

/-- For any other field it does not matter what comes first: what a cut shortens is usable before
and after it. -/
theorem displayLabel_eq_firstUsable {f : Field} (h : ∀ cut, ¬ f.ShowsUnusable cut) :
    f.displayLabel = f.firstUsable := by
  obtain ⟨label, hlabel, hne⟩ | hlabel := f.labeled_or_unlabeled
  · obtain ⟨hshown, hfirst⟩ := displayLabel_of_label hlabel hne
    rw [hshown, hfirst]
  · cases hs : f.serialName with
    | none =>
      rw [displayLabel_of_unlabeled hlabel, firstUsable_of_unlabeled hlabel, hs]
      rfl
    | some s =>
      rw [displayLabel_of_serial hlabel hs, firstUsable_of_serial hlabel hs]
      obtain hself | ⟨options, hoptions⟩ := eq_beforeComma_or s
      · rw [← hself]
      · have hcomma : ',' ∈ s.toList := by
          rw [hoptions]
          simp
        have husable : ¬ (beforeComma s = "" ∨ beforeComma s = "-") := by
          intro hunusable
          exact h _ ⟨hlabel, hunusable, options, by rw [hs, ← hoptions]⟩
        rw [if_neg husable, if_neg fun hunusable => comma_not_mem_of_unusable hunusable hcomma]

/-- What is passed over leaves the declared name in the end. -/
theorem firstUsable_ne_empty {f : Field} (h : f.name ≠ "") : f.firstUsable ≠ "" := by
  obtain ⟨label, hlabel, hne⟩ | hlabel := f.labeled_or_unlabeled
  · rw [(displayLabel_of_label hlabel hne).2]
    exact hne
  · cases hs : f.serialName with
    | none =>
      rw [firstUsable_of_unlabeled hlabel, hs]
      exact h
    | some s =>
      rw [firstUsable_of_serial hlabel hs]
      split
      · exact h
      · next husable => exact fun hempty => husable (.inl hempty)

/-- **How a field is named in messages.**  A field without a label whose serialization name has a
comma after nothing or after `-` is named by that nothing or `-`, although its declared name is the
first usable candidate.  Any other field is named by its first usable candidate.  So a field with a
declared name is named by the empty text just when it has no label and its serialization name begins
with a comma. -/
theorem displayLabel_cases (f : Field) :
    (∀ cut, f.ShowsUnusable cut → f.displayLabel = cut ∧ f.firstUsable = f.name) ∧
    ((∀ cut, ¬ f.ShowsUnusable cut) → f.displayLabel = f.firstUsable) ∧
    (f.name ≠ "" → (f.displayLabel = "" ↔ f.ShowsUnusable "")) := by
  refine ⟨fun cut h => ⟨h.displayLabel_eq, h.firstUsable_eq⟩, displayLabel_eq_firstUsable, ?_⟩
  intro hname
  constructor
  · intro hempty
    by_cases h : ∀ cut, ¬ f.ShowsUnusable cut
    · rw [displayLabel_eq_firstUsable h] at hempty
      exact absurd hempty (firstUsable_ne_empty hname)
    · obtain ⟨cut, hcut⟩ := Classical.not_forall_not.1 h
      rw [hcut.displayLabel_eq] at hempty
      rwa [hempty] at hcut
  · exact ShowsUnusable.displayLabel_eq

/-- A serialization name that is nothing but an option names the field by the empty text; with a name
before the option it names the field by this one. -/
theorem displayLabel_option_only :
    displayLabel ⟨"user_name", none, some ",omitempty", "", .text ""⟩ = "" ∧
    displayLabel ⟨"user_name", some "", some "userName,omitempty", "", .text ""⟩ =
      firstUsable ⟨"user_name", some "", some "userName,omitempty", "", .text ""⟩ := by
  constructor
  · refine ((displayLabel_cases ⟨"user_name", none, some ",omitempty", "", .text ""⟩).1 "" ?_).1
    exact ⟨by simp, .inl rfl, "omitempty", rfl⟩
  · apply (displayLabel_cases ⟨"user_name", some "", some "userName,omitempty", "", .text ""⟩).2.1
    rintro cut ⟨-, rfl | rfl, options, hserial⟩
    · have hlist := congrArg (Option.map String.toList) hserial
      simp at hlist
    · have hlist := congrArg (Option.map String.toList) hserial
      simp at hlist

/-- A field need not be named by its first usable candidate, and its name in messages may be empty
although its declared name is not. -/
theorem displayLabel_ne_firstUsable :
    (¬ ∀ f : Field, f.displayLabel = f.firstUsable) ∧
    ¬ ∀ f : Field, f.name ≠ "" → f.displayLabel ≠ "" := by
  have hempty : displayLabel ⟨"user_name", none, some ",omitempty", "", .text ""⟩ = "" := by decide
  have hname : firstUsable ⟨"user_name", none, some ",omitempty", "", .text ""⟩ = "user_name" := by
    decide
  constructor
  · intro h
    have hagree := h ⟨"user_name", none, some ",omitempty", "", .text ""⟩
    rw [hempty, hname] at hagree
    exact absurd hagree (by decide)
  · intro h
    exact h ⟨"user_name", none, some ",omitempty", "", .text ""⟩ (by decide) hempty

end RecordCheck.Field
