import Mathlib.Data.List.Induction
import Mathlib.Data.List.Nodup
import RecordCheck.Payload
import RecordCheck.Proofs.Outcome

/-!
# Values and their snapshots

Rules look at a value through its view.  A snapshot is a JSON value, which has a view of its own,
and for values that JSON can hold without loss both views are the same.  So a record and the
payload that its snapshots make are checked alike.

* `Key.name_injective`, `Value.memberCount_entrySnapshots` — keys of one kind keep apart as texts,
  so the snapshot of a map has as many members as the map has entries.
* `Value.Portable` — the values that a snapshot shows as they are (`Value.view_snapshot`).
* `Value.Optional` — portable values under any number of optional values, which only `required`
  can tell from their snapshots (`Value.holds_view_snapshot`).
* `Run.validateJson_snapshots` — records and payloads are checked alike.
-/

namespace RecordCheck

/-! ## Counting different elements -/

theorem nodup_eraseDups {α : Type} [BEq α] [LawfulBEq α] (l : List α) : l.eraseDups.Nodup := by
  induction l using List.reverseRecOn with
  | nil => simp
  | append_singleton as a ih =>
    rw [List.eraseDups_append]
    by_cases ha : a ∈ as
    · simpa [List.removeAll, ha] using ih
    · have hne : ∀ b ∈ as, b ≠ a := fun b hb hba => ha (hba ▸ hb)
      simpa [List.removeAll, ha, List.eraseDups_cons, List.nodup_append, ih] using hne

/-! ## Keys -/

namespace Key

/-- Are two keys of one kind? -/
def Alike : Key → Key → Prop
  | .text _, .text _ | .int _, .int _ | .bool _, .bool _ => True
  | _, _ => False

/-- Different keys of one kind have different names. -/
theorem name_injective {a b : Key} (h : a.Alike b) (hname : a.name = b.name) : a = b := by
  cases a <;> cases b <;> simp only [Alike] at h
  case text.text => exact congrArg Key.text hname
  case int.int m n =>
    have hint := Numeral.ofInt_injective (String.ofList_injective hname)
    rw [Int64.toInt_inj.1 hint]
  case bool.bool m n =>
    cases m <;> cases n <;> first | rfl | exact absurd hname (by decide)

end Key

/-! ## Portable values -/

namespace Value

/-- The values that JSON holds without loss: texts, signed integers, finite numbers, truth values,
sequences, maps with keys of one kind, JSON values, and what is held by reference.  What the
sequences and maps hold does not matter. -/
def Portable : Value → Prop
  | .text _ | .int _ | .bool _ | .list _ | .json _ => True
  | .float x => x.isFinite = true
  | .single x => x.toSingle.isFinite = true
  | .map entries => ∀ a ∈ entries.map Prod.fst, ∀ b ∈ entries.map Prod.fst, a.Alike b
  | .shared v => v.Portable
  | .uint _ | .absent | .present _ | .sealed .. => False

theorem map_fst_entrySnapshots (entries : List (Key × Value)) :
    (entrySnapshots entries).map Prod.fst = (entries.map Prod.fst).map Key.name := by
  induction entries with
  | nil => rfl
  | cons e es ih => simp [entrySnapshots, ih]

/-- The snapshot of a map has as many members as the map has entries. -/
theorem memberCount_entrySnapshots {entries : List (Key × Value)} (h : (map entries).Portable) :
    Json.memberCount (entrySnapshots entries) = entryCount entries := by
  have hnodup : ((entries.map Prod.fst).eraseDups.map Key.name).Nodup := by
    refine List.Nodup.map_on (fun a ha b hb hname => ?_) (nodup_eraseDups _)
    rw [List.mem_eraseDups] at ha hb
    exact Key.name_injective (h a ha b hb) hname
  rw [Json.memberCount, Dict.size_ofList hnodup fun name => ?_, List.length_map, entryCount]
  simp only [map_fst_entrySnapshots, List.mem_map, List.mem_eraseDups]

theorem view_ofDouble {x : Double} (h : x.isFinite = true) : (Json.ofDouble x).view = .float x := by
  rw [Json.ofDouble, if_pos h]
  rfl

theorem length_snapshots (items : List Value) : (snapshots items).length = items.length := by
  induction items with
  | nil => rfl
  | cons v vs ih => simp [snapshots, ih]

/-- The snapshot of a portable value shows the rules what the value shows them. -/
theorem view_snapshot : ∀ {v : Value}, v.Portable → v.snapshot.view = v.view
  | .text _, _ | .int _, _ | .bool _, _ | .json _, _ => rfl
  | .float _, h | .single _, h => view_ofDouble h
  | .list items, _ => by rw [snapshot, Json.view, view, length_snapshots]
  | .map entries, h => by rw [snapshot, Json.view, view, memberCount_entrySnapshots h]
  | .shared v, h => view_snapshot (v := v) h

/-! ## Optional values -/

/-- A missing value, or a portable one, under any number of optional values and references. -/
inductive Optional : Value → Prop where
  | absent : Optional .absent
  | portable {v : Value} : v.Portable → Optional v
  | present {v : Value} : Optional v → Optional (.present v)
  | shared {v : Value} : Optional v → Optional (.shared v)

/-- No rule but `required` tells an optional value from its snapshot. -/
theorem holds_view_snapshot {v : Value} (h : v.Optional) {b : Builtin} (hb : b ≠ .required)
    (param : List Char) : b.holds v.view param = b.holds v.snapshot.view param := by
  induction h with
  | absent => rfl
  | portable hv => rw [view_snapshot hv]
  | present _ ih =>
    rw [view, Builtin.holds, if_neg hb, ih]
    rfl
  | shared _ ih => exact ih

end Value

/-! ## Records and payloads -/

namespace Field

/-- The rule line that a payload needs for a field. -/
def rule (f : Field) : FieldRule :=
  ⟨f.name, f.line, f.label⟩

/-- The member of a payload that holds the snapshot of a field. -/
def member (f : Field) : String × Json :=
  (f.name, f.value.snapshot)

/-- The field with its snapshot in place of its value. -/
def frozen (f : Field) : Field :=
  { f with value := .json f.value.snapshot }

end Field

/-- A payload of the snapshots makes the record in which every value is its snapshot. -/
theorem FieldRules.record_members {fields : List Field} (hnames : (fields.map Field.name).Nodup)
    (hserial : ∀ f ∈ fields, f.serialName = none) :
    FieldRules.record ⟨fields.map Field.rule⟩ (fields.map Field.member) =
      (fields.map Field.frozen).map .field := by
  have hkeys : ((fields.map Field.member).map Prod.fst).Nodup := by
    rw [List.map_map]
    exact hnames
  simp only [FieldRules.record, List.map_map]
  refine List.map_congr_left fun f hf => ?_
  have hmember : Json.member? (fields.map Field.member) f.name = some f.value.snapshot :=
    Dict.get?_ofList_of_mem hkeys (List.mem_map_of_mem hf)
  simp [Field.rule, Field.frozen, hmember, hserial f hf]

namespace Validator

variable (v : Validator) (ask : View → String → String → Run Bool)

/-- A field with a portable value is checked as its snapshot is. -/
theorem checkField_frozen {f : Field} (h : f.value.Portable) :
    v.checkField ask f.frozen = v.checkField ask f := by
  unfold checkField
  rw [show f.frozen.value.view = f.value.view from Value.view_snapshot h]
  rfl

theorem checkFields_frozen {fields : List Field} (h : ∀ f ∈ fields, f.value.Portable) :
    v.checkFields ask (fields.map Field.frozen) = v.checkFields ask fields := by
  induction fields with
  | nil => rfl
  | cons f fs ih =>
    rw [List.map_cons, checkFields, checkFields, checkField_frozen v ask (h f (by simp)),
      ih fun g hg => h g (List.mem_cons_of_mem _ hg)]

end Validator

/-- The check of the payload of some snapshots is the check of the fields. -/
theorem Run.validateJson_members {fields : List Field} (hnames : (fields.map Field.name).Nodup)
    (h : ∀ f ∈ fields, f.value.Portable ∧ f.serialName = none) (depth : Nat) :
    Run.validateJson depth (.object (fields.map Field.member)) ⟨fields.map Field.rule⟩ =
      (Run.validate depth (fields.map .field)).bind fun outcome =>
        Run.pure (outcome.mapError .invalid) := by
  have hrecord := FieldRules.record_members hnames fun f hf => (h f hf).2
  have hvalidate : Run.validate depth ((fields.map Field.frozen).map .field) =
      Run.validate depth (fields.map .field) := by
    simp only [Run.validate, Validator.checkEntries_eq_checkFields, Entry.flattenAll_map_field,
      Validator.checkFields_frozen _ _ fun f hf => (h f hf).1]
  rw [Run.validateJson, hrecord, hvalidate]

/-- **Records and payloads are checked alike.**  The snapshot of a portable value shows the rules
what the value shows them, and is its own snapshot.  So the check of a record of portable values
and the check of the payload of their snapshots are one run, for every validator, whatever its
rules do.  If custom rules only test, both checks end, both with the failures of the record.  A
value that is optional on top of this differs from its snapshot for `required` alone. -/
theorem Run.validateJson_snapshots :
    (∀ v : Value, v.Portable →
      v.snapshot.view = v.view ∧ (Value.json v.snapshot).snapshot = v.snapshot) ∧
    (∀ fields : List Field, (fields.map Field.name).Nodup →
      (∀ f ∈ fields, f.value.Portable ∧ f.serialName = none) →
      ∀ depth,
        Run.validateJson depth (.object (fields.map Field.member)) ⟨fields.map Field.rule⟩ =
          ((Run.validate depth (fields.map .field)).bind fun outcome =>
            Run.pure (outcome.mapError .invalid)) ∧
        ∀ v : Validator, v.rules.OnlyTests → ∃ trace,
          Run.validate depth (fields.map .field) v =
            some ⟨Report.outcome ⟨v.failures (fields.map .field)⟩, v, trace⟩ ∧
          Run.validateJson depth (.object (fields.map Field.member)) ⟨fields.map Field.rule⟩ v =
            some ⟨(Report.outcome ⟨v.failures (fields.map .field)⟩).mapError .invalid, v, trace⟩) ∧
    (∀ v : Value, v.Optional → ∀ b : Builtin, b ≠ .required → ∀ param : List Char,
      b.holds v.view param = b.holds v.snapshot.view param) := by
  refine ⟨fun v h => ⟨Value.view_snapshot h, rfl⟩, ?_,
    fun v h b hb param => Value.holds_view_snapshot h hb param⟩
  intro fields hnames h depth
  have hrun := Run.validateJson_members hnames h depth
  refine ⟨hrun, fun v hv => ?_⟩
  have hends := Run.validate_of_onlyTests hv depth (fields.map .field)
  refine ⟨_, hends, ?_⟩
  rw [hrun, Run.bind_of_some hends rfl, List.append_nil]

/-- A map with whole numbers for keys fails in a payload as in a record, and an optional map is
counted as its snapshot is. -/
theorem Run.validateJson_snapshots_map :
    (∃ trace,
      Run.validate 1
          [.field { name := "ids", label := some "Ids", line := "min=3",
                    value := .map [(.int 1, .absent), (.int (-1), .bool true)] }]
          ⟨.empty, .english⟩ =
        some ⟨.error ⟨[⟨"ids", "Ids", "min", "3", .object [("1", .null), ("-1", .bool true)],
          "Ids must be at least 3"⟩]⟩, ⟨.empty, .english⟩, trace⟩ ∧
      Run.validateJson 1 (.object [("ids", .object [("1", .null), ("-1", .bool true)])])
          ⟨[⟨"ids", "min=3", some "Ids"⟩]⟩ ⟨.empty, .english⟩ =
        some ⟨.error (.invalid ⟨[⟨"ids", "Ids", "min", "3",
          .object [("1", .null), ("-1", .bool true)], "Ids must be at least 3"⟩]⟩),
          ⟨.empty, .english⟩, trace⟩) ∧
    Json.view (.object [("1", .null), ("-1", .bool true)]) = .map 2 ∧
    Builtin.len.holds (.present (.map 2)) ['2'] = Builtin.len.holds (.map 2) ['2'] := by
  have hmap : (Value.map [(.int 1, .absent), (.int (-1), .bool true)]).Portable := by
    simp [Value.Portable, Key.Alike]
  have hsnapshot : (Value.map [(.int 1, .absent), (.int (-1), .bool true)]).snapshot =
      .object [("1", .null), ("-1", .bool true)] := by
    have hone : Key.name (.int 1) = "1" := by decide
    have hminus : Key.name (.int (-1)) = "-1" := by decide
    simp [Value.snapshot, Value.entrySnapshots, hone, hminus]
  have hview : (Value.map [(.int 1, .absent), (.int (-1), .bool true)]).view = .map 2 := by decide
  have hfailures : Validator.failures ⟨.empty, .english⟩
      [.field { name := "ids", label := some "Ids", line := "min=3",
                value := .map [(.int 1, .absent), (.int (-1), .bool true)] }] =
      [⟨"ids", "Ids", "min", "3", .object [("1", .null), ("-1", .bool true)],
        "Ids must be at least 3"⟩] := by
    rw [← hsnapshot]
    rfl
  have hruns := (Run.validateJson_snapshots.2.1
    [{ name := "ids", label := some "Ids", line := "min=3",
       value := .map [(.int 1, .absent), (.int (-1), .bool true)] }]
    (by simp) (by simpa using hmap) 1).2 ⟨.empty, .english⟩ RuleTable.onlyTests_empty
  have hshown := (Run.validateJson_snapshots.1 _ hmap).1
  have hlen := Run.validateJson_snapshots.2.2 _ (.present (.portable hmap)) .len (by decide) ['2']
  rw [hsnapshot, hview] at hshown
  refine ⟨?_, hshown, ?_⟩
  · simp only [List.map_cons, List.map_nil, Field.member, Field.rule, hsnapshot, hfailures,
      Report.outcome_mk] at hruns
    exact hruns
  · rw [Value.snapshot, hsnapshot, hshown, Value.view, hview] at hlen
    exact hlen

end RecordCheck
