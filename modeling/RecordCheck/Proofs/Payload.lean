import RecordCheck.Payload
import RecordCheck.Proofs.Outcome

/-!
# What the check of a payload reads

The check of a payload reads the members that have a rule line, and nothing else of the payload: not
the other members, not the order of the members, and not whether a member is missing or `null`.

* `Json.canonical`, `Json.Same` — values that differ only in how their objects are written, and what
  this means for the members of an object (`Json.same_object_iff`).
* `FieldRules.record_congr` — payloads with the same members where rule lines are make one record.
* `Validator.checkFields_canonical`, `Run.validateJson_canonical` — how objects inside a payload are
  written is seen in the values that failures keep, and nowhere else.
* `Run.validateJson_of_annotated` — payloads that agree on the members with rule lines are checked
  alike, and what the check of a payload can end with.
-/

namespace RecordCheck

/-! ## Values up to the order of members -/

namespace Json

mutual

/-- The value with the members of every object in the order of their names, each name once, with the
value that counts. -/
def canonical : Json → Json
  | .null => .null
  | .bool b => .bool b
  | .number n => .number n
  | .text s => .text s
  | .array items => .array (canonicalItems items)
  | .object members => .object (Dict.ofList (canonicalMembers members)).entries

/-- The items of an array in canonical form. -/
def canonicalItems : List Json → List Json
  | [] => []
  | j :: js => j.canonical :: canonicalItems js

/-- The members of an object in canonical form, where they stand. -/
def canonicalMembers : List (String × Json) → List (String × Json)
  | [] => []
  | (name, j) :: ms => (name, j.canonical) :: canonicalMembers ms

end

/-- Two values are the same value, however the objects in them are written. -/
def Same (a b : Json) : Prop :=
  a.canonical = b.canonical

theorem canonicalItems_eq_map (items : List Json) :
    canonicalItems items = items.map canonical := by
  induction items with
  | nil => rfl
  | cons j js ih => rw [canonicalItems, ih, List.map_cons]

theorem canonicalMembers_eq_map (members : List (String × Json)) :
    canonicalMembers members = members.map fun e => (e.1, e.2.canonical) := by
  induction members with
  | nil => rfl
  | cons m ms ih => rw [canonicalMembers, ih, List.map_cons]

theorem ofList_canonicalMembers_get? (members : List (String × Json)) (name : String) :
    (Dict.ofList (canonicalMembers members)).get? name = (member? members name).map canonical := by
  rw [canonicalMembers_eq_map, member?, Dict.get?_ofList, Dict.get?_ofList, ← List.map_reverse,
    Dict.lookup_map]

/-- The members of an object in canonical form are those of the object. -/
theorem member?_canonical (members : List (String × Json)) (name : String) :
    member? (Dict.ofList (canonicalMembers members)).entries name =
      (member? members name).map canonical := by
  rw [member?, Dict.ofList_entries, ofList_canonicalMembers_get?]

/-- Two objects are the same exactly if they have the same members, up to how these are written. -/
theorem same_object_iff {members others : List (String × Json)} :
    (object members).Same (object others) ↔
      ∀ name, (member? members name).map canonical = (member? others name).map canonical := by
  rw [Same, canonical, canonical, Json.object.injEq]
  constructor
  · intro h name
    rw [← member?_canonical, ← member?_canonical, h]
  · intro h
    have hdict : Dict.ofList (canonicalMembers members) = Dict.ofList (canonicalMembers others) :=
      Dict.ext_get? fun name => by
        rw [ofList_canonicalMembers_get?, ofList_canonicalMembers_get?, h name]
    rw [hdict]

theorem memberCount_canonicalMembers (members : List (String × Json)) :
    memberCount (Dict.ofList (canonicalMembers members)).entries = memberCount members := by
  rw [memberCount, Dict.ofList_entries]
  refine (Dict.size_ofList (Dict.nodup_keys (Dict.ofList members)) fun name => ?_).trans ?_
  · rw [Dict.mem_keys_ofList, canonicalMembers_eq_map, List.map_map]
    rfl
  · rw [memberCount, Dict.keys, List.length_map, Dict.size]

/-- Rules do not see how objects are written. -/
theorem view_canonical (j : Json) : j.canonical.view = j.view := by
  cases j with
  | null => rfl
  | bool => rfl
  | number => rfl
  | text => rfl
  | array items => rw [canonical, view, view, canonicalItems_eq_map, List.length_map]
  | object members => rw [canonical, view, view, memberCount_canonicalMembers]

end Json

/-! ## Failures up to the order of members -/

/-- The failure with its value in canonical form. -/
def Failure.canonical (f : Failure) : Failure :=
  { f with value := f.value.canonical }

/-- The report with the values of all failures in canonical form. -/
def Report.canonical (r : Report) : Report :=
  ⟨r.failures.map Failure.canonical⟩

/-- The error with all values in canonical form. -/
def CheckError.canonical : CheckError → CheckError
  | .invalid report => .invalid report.canonical
  | .notARecord kind => .notARecord kind
  | .settings => .settings

theorem Report.outcome_canonical (failures : List Failure) :
    outcome ⟨failures.map Failure.canonical⟩ =
      (outcome ⟨failures⟩).mapError Report.canonical := by
  cases failures <;> rfl

/-! ## The record of a payload -/

/-- The field that a rule line makes of a member. -/
def FieldRule.toField (r : FieldRule) (j : Json) : Field where
  name := r.field
  label := r.label
  line := r.line
  value := .json j

namespace FieldRules

variable (rules : FieldRules)

/-- The value that a rule line finds in a payload; a missing member counts as `null`. -/
def found (members : List (String × Json)) (r : FieldRule) : Json :=
  (Json.member? members r.field).getD .null

theorem flattenAll_record (members : List (String × Json)) :
    Entry.flattenAll (rules.record members) =
      rules.rules.map fun r => r.toField (found members r) := by
  have hrecord : rules.record members =
      (rules.rules.map fun r => r.toField (found members r)).map .field := by
    rw [record, List.map_map]
    rfl
  rw [hrecord, Entry.flattenAll_map_field]

/-- Payloads with the same members where rule lines are make one record. -/
theorem record_congr {members others : List (String × Json)}
    (h : ∀ r ∈ rules.rules, found members r = found others r) :
    rules.record members = rules.record others := by
  refine List.map_congr_left fun r hr => ?_
  rw [show (Json.member? members r.field).getD .null =
    (Json.member? others r.field).getD .null from h r hr]

theorem found_canonical (members : List (String × Json)) (r : FieldRule) :
    found (Dict.ofList (Json.canonicalMembers members)).entries r =
      (found members r).canonical := by
  rw [found, found, Json.member?_canonical]
  cases Json.member? members r.field <;> rfl

end FieldRules

namespace Validator

variable (v : Validator) (ask : View → String → String → Run Bool)

/-- A member in canonical form is checked as it is; the failure keeps the canonical form. -/
theorem checkField_canonical (r : FieldRule) (j : Json) :
    v.checkField ask (r.toField j.canonical) =
      (v.checkField ask (r.toField j)).bind fun failure =>
        Run.pure (failure.map Failure.canonical) := by
  have hview : (r.toField j.canonical).value.view = (r.toField j).value.view :=
    Json.view_canonical j
  rw [checkField, checkField, hview, Run.bind_assoc]
  refine congrArg _ (funext fun failed => ?_)
  cases failed with
  | none => rfl
  | some rule =>
    rw [Run.bind_assoc]
    rfl

theorem checkFields_canonical (rules : List FieldRule) (found : FieldRule → Json) :
    v.checkFields ask (rules.map fun r => r.toField (found r).canonical) =
      (v.checkFields ask (rules.map fun r => r.toField (found r))).bind fun failures =>
        Run.pure (failures.map Failure.canonical) := by
  induction rules with
  | nil => rfl
  | cons r rs ih =>
    rw [List.map_cons, List.map_cons, checkFields, checkFields, checkField_canonical, ih,
      Run.bind_assoc, Run.bind_assoc]
    refine congrArg _ (funext fun failure => ?_)
    rw [Run.pure_bind, Run.bind_assoc, Run.bind_assoc]
    refine congrArg _ (funext fun failures => ?_)
    rw [Run.pure_bind, Run.pure_bind]
    cases failure <;> simp

end Validator

namespace Run

theorem validate_canonical (depth : Nat) (rules : FieldRules) (members : List (String × Json)) :
    Run.validate depth (rules.record (Dict.ofList (Json.canonicalMembers members)).entries) =
      (Run.validate depth (rules.record members)).bind fun outcome =>
        Run.pure (outcome.mapError Report.canonical) := by
  rw [validate, validate, Run.bind_assoc]
  refine congrArg _ (funext fun v => ?_)
  rw [Validator.checkEntries_eq_checkFields, Validator.checkEntries_eq_checkFields,
    FieldRules.flattenAll_record, FieldRules.flattenAll_record]
  simp only [FieldRules.found_canonical]
  rw [Validator.checkFields_canonical, Run.bind_assoc, Run.bind_assoc]
  refine congrArg _ (funext fun failures => ?_)
  rw [Run.pure_bind, List.length_map, Report.outcome_canonical, Run.bind_assoc]
  simp only [Run.pure_bind]

/-- Whether the objects in a payload are in canonical form is seen in the values that failures
keep, and nowhere else. -/
theorem validateJson_canonical (depth : Nat) (payload : Json) (rules : FieldRules) :
    Run.validateJson depth payload.canonical rules =
      (Run.validateJson depth payload rules).bind fun outcome =>
        Run.pure (outcome.mapError CheckError.canonical) := by
  cases payload with
  | object members =>
    rw [Json.canonical, validateJson, validateJson, validate_canonical, Run.bind_assoc,
      Run.bind_assoc]
    refine congrArg _ (funext fun outcome => ?_)
    rw [Run.pure_bind, Run.pure_bind]
    cases outcome <;> rfl
  | array items => rfl
  | null => rfl
  | bool => rfl
  | number => rfl
  | text => rfl

/-- A payload that is not an object is rejected at once. -/
theorem validateJson_of_not_object (depth : Nat) {payload : Json}
    (h : ∀ members, payload ≠ .object members) (rules : FieldRules) (v : Validator) :
    Run.validateJson depth payload rules v =
      some ⟨.error (.notARecord payload.kindName), v, [.payloadRejected payload.kindName]⟩ := by
  cases payload with
  | object members => exact absurd rfl (h members)
  | array => rfl
  | null => rfl
  | bool => rfl
  | number => rfl
  | text => rfl

/-- The check of an object ends as the check of the record that it makes. -/
theorem validateJson_object_eq_some_iff {depth : Nat} {members : List (String × Json)}
    {rules : FieldRules} {v : Validator} {e : Ending (Except CheckError Unit)} :
    Run.validateJson depth (.object members) rules v = some e ↔
      ∃ d, Run.validate depth (rules.record members) v = some d ∧
        e = ⟨d.answer.mapError .invalid, d.validator, d.trace⟩ := by
  rw [validateJson, bind_eq_some_iff]
  constructor
  · rintro ⟨d, d', hd, hd', rfl⟩
    cases hd'
    exact ⟨d, hd, by rw [List.append_nil]⟩
  · rintro ⟨d, hd, rfl⟩
    exact ⟨d, _, hd, rfl, by rw [List.append_nil]⟩

/-- A report of a check is not empty. -/
theorem failures_ne_nil_of_validate {depth : Nat} {record : List Entry} {v : Validator}
    {e : Ending (Except Report Unit)} (h : Run.validate depth record v = some e) {report : Report}
    (hreport : e.answer = .error report) : report.failures ≠ [] := by
  obtain ⟨d, -, rfl⟩ := validate_eq_some_iff.1 h
  obtain ⟨hne, rfl⟩ := Report.outcome_eq_error_iff.1 hreport
  exact hne

/-- **The check of a payload reads the members that have a rule line.**  Two objects that give these
members the same values, where a missing member counts as `null`, are checked alike by every
validator, with the same outcome, the same trace and the same validator left.  If the values are the
same only up to how the objects inside are written, so are the values that the failures keep, and
nothing else differs.  A payload that is not an object is rejected with its kind, without a rule
being run.  The check of an object ends, if custom rules only test, and never with such a
rejection; it passes, or it reports at least one failure. -/
theorem validateJson_of_annotated (depth : Nat) (rules : FieldRules) :
    (∀ members others : List (String × Json),
      (∀ r ∈ rules.rules, (Json.member? members r.field).getD .null =
        (Json.member? others r.field).getD .null) →
      Run.validateJson depth (.object members) rules =
        Run.validateJson depth (.object others) rules) ∧
    (∀ members others : List (String × Json),
      (∀ r ∈ rules.rules, ((Json.member? members r.field).getD .null).Same
        ((Json.member? others r.field).getD .null)) →
      ((Run.validateJson depth (.object members) rules).bind fun outcome =>
          Run.pure (outcome.mapError CheckError.canonical)) =
        (Run.validateJson depth (.object others) rules).bind fun outcome =>
          Run.pure (outcome.mapError CheckError.canonical)) ∧
    (∀ (payload : Json) (v : Validator), (∀ members, payload ≠ .object members) →
      Run.validateJson depth payload rules v =
        some ⟨.error (.notARecord payload.kindName), v, [.payloadRejected payload.kindName]⟩) ∧
    (∀ members v e, Run.validateJson depth (.object members) rules v = some e →
      e.answer = .ok () ∨
        ∃ report, report.failures ≠ [] ∧ e.answer = .error (.invalid report)) ∧
    ∀ members v, v.rules.OnlyTests →
      ∃ e, Run.validateJson depth (.object members) rules v = some e := by
  have hcongr (members others : List (String × Json))
      (h : ∀ r ∈ rules.rules, FieldRules.found members r = FieldRules.found others r) :
      Run.validateJson depth (.object members) rules =
        Run.validateJson depth (.object others) rules := by
    rw [validateJson, validateJson, rules.record_congr h]
  refine ⟨hcongr, ?_, fun payload v h => validateJson_of_not_object depth h rules v, ?_, ?_⟩
  · intro members others h
    rw [← validateJson_canonical, ← validateJson_canonical, Json.canonical, Json.canonical]
    refine hcongr _ _ fun r hr => ?_
    rw [FieldRules.found_canonical, FieldRules.found_canonical]
    exact h r hr
  · intro members v e he
    obtain ⟨d, hd, rfl⟩ := validateJson_object_eq_some_iff.1 he
    cases hanswer : d.answer with
    | ok => exact .inl rfl
    | error report => exact .inr ⟨report, failures_ne_nil_of_validate hd hanswer, rfl⟩
  · intro members v hv
    exact ⟨_, validateJson_object_eq_some_iff.2 ⟨_, validate_of_onlyTests hv depth _, rfl⟩⟩

/-- Rule lines of which two are for the same member. -/
def parcelRules : FieldRules :=
  ⟨[⟨"size", "required,min=2", none⟩, ⟨"color", "required", some "Color"⟩, ⟨"size", "max=1", none⟩]⟩

/-- A size with two sides. -/
def parcelSize : Json :=
  .object [("wide", .number (.int 3)), ("high", .null)]

/-- The same size, with its sides the other way round. -/
def turnedParcelSize : Json :=
  .object [("high", .null), ("wide", .number (.int 3))]

/-- A missing color counts as `null`; other members, their order and the order within the size do
not matter. -/
theorem validateJson_of_annotated_size :
    Run.validateJson 0 (.object [("color", .null), ("size", parcelSize), ("name", .text "a")])
        parcelRules =
      Run.validateJson 0 (.object [("size", .null), ("id", .bool true), ("size", parcelSize)])
        parcelRules ∧
    ((Run.validateJson 0 (.object [("size", parcelSize)]) parcelRules).bind fun outcome =>
        Run.pure (outcome.mapError CheckError.canonical)) =
      ((Run.validateJson 0 (.object [("size", turnedParcelSize)]) parcelRules).bind fun outcome =>
        Run.pure (outcome.mapError CheckError.canonical)) ∧
    Run.validateJson 0 (.array [parcelSize]) parcelRules ⟨.empty, .english⟩ =
      some ⟨.error (.notARecord "array"), ⟨.empty, .english⟩, [.payloadRejected "array"]⟩ ∧
    ∃ e report, Run.validateJson 0 (.object [("size", parcelSize)]) parcelRules
        ⟨.empty, .english⟩ = some e ∧
      report.failures ≠ [] ∧ e.answer = .error (.invalid report) := by
  have h := validateJson_of_annotated 0 parcelRules
  have harray : ∀ members, Json.array [parcelSize] ≠ .object members := by
    intro members heq
    cases heq
  refine ⟨h.1 _ _ ?_, h.2.1 _ _ ?_, h.2.2.1 (.array [parcelSize]) _ harray, ?_⟩
  · simp [parcelRules, Json.member?, Dict.get?_ofList, Dict.lookup_cons]
  · have hsize : parcelSize.Same turnedParcelSize := by rfl
    have hnull : Json.null.Same .null := rfl
    simp [parcelRules, Json.member?, Dict.get?_ofList, Dict.lookup_cons, hsize, hnull]
  · obtain ⟨e, he⟩ := h.2.2.2.2 [("size", parcelSize)] ⟨.empty, .english⟩ RuleTable.onlyTests_empty
    have hfails : e.answer ≠ .ok () := by
      obtain ⟨d, hd, rfl⟩ := validateJson_object_eq_some_iff.1 he
      rw [validate_of_onlyTests RuleTable.onlyTests_empty] at hd
      cases hd
      intro heq
      cases heq
    obtain hok | ⟨report, hne, hreport⟩ := h.2.2.2.1 _ _ _ he
    · exact absurd hok hfails
    · exact ⟨e, report, he, hne, hreport⟩

end Run

end RecordCheck
