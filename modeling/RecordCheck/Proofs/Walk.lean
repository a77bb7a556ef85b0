import RecordCheck.Check

/-!
# The walk through a record

Walking through a record is checking the fields of its flattening one after the other, whatever
custom rules do on the way.

* `Entry.flattenAll_append` — the flattening of entries that stand one after the other.
* `Entry.flattenAll_embedded` — embedding a record is listing its entries in place.
* `Validator.checkFields` — checks a list of fields in order.
* `Validator.checkEntries_eq_checkFields` — the walk is this check of the flattening.
* `Run.validate_eq_some_iff` — a check is this walk, summed up.
* `Run.validate_congr` — records with one flattening are checked alike.
-/

namespace RecordCheck

/-! ## Flattening -/

theorem Entry.flattenAll_append (es ds : List Entry) :
    Entry.flattenAll (es ++ ds) = Entry.flattenAll es ++ Entry.flattenAll ds := by
  induction es with
  | nil => simp [Entry.flattenAll]
  | cons e es ih => simp [Entry.flattenAll, ih]

/-- An embedded record counts as its entries in place. -/
theorem Entry.flattenAll_embedded (before inner after : List Entry) :
    Entry.flattenAll (before ++ inner ++ after) =
      Entry.flattenAll (before ++ .embedded inner :: after) := by
  simp [Entry.flattenAll_append, Entry.flattenAll, Entry.flatten]

theorem Entry.flattenAll_map_field (fs : List Field) :
    Entry.flattenAll (fs.map .field) = fs := by
  induction fs with
  | nil => rfl
  | cons f fs ih => simp [Entry.flattenAll, Entry.flatten, ih]

/-! ## Checking the flattening -/

namespace Validator

variable (v : Validator) (ask : View → String → String → Run Bool)

/-- Checks fields in order with the rules and messages of a validator. -/
def checkFields : List Field → Run (List Failure)
  | [] => Run.pure []
  | f :: fs =>
    (v.checkField ask f).bind fun failure =>
      (checkFields fs).bind fun more => Run.pure (failure.toList ++ more)

theorem checkFields_append (fs gs : List Field) :
    v.checkFields ask (fs ++ gs) =
      (v.checkFields ask fs).bind fun failures =>
        (v.checkFields ask gs).bind fun more => Run.pure (failures ++ more) := by
  induction fs with
  | nil => simp [checkFields]
  | cons f fs ih => simp [checkFields, ih, Run.bind_assoc]

mutual

theorem checkEntry_eq_checkFields :
    ∀ e : Entry, v.checkEntry ask e = v.checkFields ask e.flatten
  | .field f => by simp [checkEntry, checkFields, Entry.flatten]
  | .embedded entries => by
    rw [checkEntry, Entry.flatten, checkEntries_eq_checkFields entries]

/-- The walk through a record checks the fields of its flattening. -/
theorem checkEntries_eq_checkFields :
    ∀ es : List Entry, v.checkEntries ask es = v.checkFields ask (Entry.flattenAll es)
  | [] => rfl
  | e :: es => by
    rw [checkEntries, Entry.flattenAll, checkFields_append, checkEntry_eq_checkFields e,
      checkEntries_eq_checkFields es]

end

end Validator

/-! ## Records -/

/-- A check walks through the flattening and sums up the failures. -/
theorem Run.validate_eq_some_iff {depth : Nat} {v : Validator} {record : List Entry}
    {e : Ending (Except Report Unit)} :
    Run.validate depth record v = some e ↔
      ∃ d, v.checkFields (Run.evaluate depth) (Entry.flattenAll record) v = some d ∧
        e = ⟨Report.outcome ⟨d.answer⟩, d.validator,
          d.trace ++ [.recordChecked d.answer.length]⟩ := by
  rw [Run.validate, Run.current_bind, Validator.checkEntries_eq_checkFields, Run.bind_eq_some_iff]
  constructor
  · rintro ⟨d, d', hd, hd', rfl⟩
    cases hd'
    exact ⟨d, hd, rfl⟩
  · rintro ⟨d, hd, rfl⟩
    exact ⟨d, _, hd, rfl, rfl⟩

/-- Records with one flattening are checked alike. -/
theorem Run.validate_congr {record other : List Entry}
    (h : Entry.flattenAll other = Entry.flattenAll record) (depth : Nat) :
    Run.validate depth other = Run.validate depth record := by
  simp only [Run.validate, Validator.checkEntries_eq_checkFields, h]

end RecordCheck
