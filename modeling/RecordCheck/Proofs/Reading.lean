import Mathlib.Data.List.Perm.Basic
import RecordCheck.Proofs.Payload
import RecordCheck.Settings

/-!
# Reading back what was written

Whatever is written is read back: settings, rule lines, catalogs, reports and envelopes.  It does
not matter in which order the members of objects are written, so this holds for a text with the
members as they are declared, for a tree that keeps them in the order of their names, and for a
catalog whose templates come in any order.

* `Json.Layout` — ways of laying out values, among them `Json.Layout.id` and
  `Json.Layout.canonical`.
* `Json.Layout.slots?` — what a structured reader is given for an object, in any layout.
* `Json.Layout.list?`, `Json.Layout.dict?` — reading arrays and dictionaries back.
* `Settings.read?_json`, `FieldRules.read?_json`, `Catalog.read?_json`, `Report.read?_json`,
  `Envelope.read?_json` — reading each kind of thing back.
* `Document.read?_of_written` — this together with what is left out when it is written.
-/

namespace RecordCheck

/-! ## Layouts -/

namespace Json

/-- A way of laying out values: the members of an object come in some order, and what is in objects
and arrays is laid out in turn.  Nothing is said about objects that have a name twice. -/
structure Layout (lay : Json → Json) : Prop where
  text (s : String) : lay (.text s) = .text s
  array (items : List Json) : lay (.array items) = .array (items.map lay)
  object {members : List (String × Json)} : (members.map Prod.fst).Nodup →
    ∃ others, lay (.object members) = .object others ∧
      others.Perm (members.map fun m => (m.1, lay m.2))

/-- The layout in which everything stays where it stands. -/
theorem Layout.id : Layout fun j => j where
  text _ := rfl
  array items := by rw [List.map_id']
  object {members} _ := ⟨members, rfl, .of_eq (List.map_id' members).symm⟩

/-- The layout in which members are in the order of their names. -/
theorem Layout.canonical : Layout Json.canonical where
  text _ := rfl
  array items := by rw [Json.canonical, canonicalItems_eq_map]
  object {members} h := by
    refine ⟨_, rfl, ?_⟩
    rw [canonicalMembers_eq_map]
    refine Dict.entries_ofList_perm ?_
    rw [List.map_map]
    exact h

/-- The member of an object with a name. -/
def get? (name : String) : Json → Option Json
  | .object members => member? members name
  | _ => none

/-- Objects that have each name once. -/
inductive Distinct : Json → Prop where
  | object {members : List (String × Json)} :
    (members.map Prod.fst).Nodup → Distinct (.object members)

theorem documents_eq_map (items : List Json) : documents items = items.map document := by
  induction items with
  | nil => rfl
  | cons j js ih => rw [documents, ih, List.map_cons]

end Json

/-! ## What a reader of an object is given -/

namespace Document

theorem namesReadable_memberDocuments (members : List (String × Json)) :
    namesReadable (Json.memberDocuments members) = true := by
  induction members with
  | nil => rfl
  | cons m ms ih => exact ih

theorem valuesOf_cons (name : String) (m : String × Json) (ms : List (String × Json)) :
    valuesOf name (Json.memberDocuments (m :: ms)) =
      if m.1 = name then m.2.document :: valuesOf name (Json.memberDocuments ms)
      else valuesOf name (Json.memberDocuments ms) := by
  by_cases h : m.1 = name <;> simp [valuesOf, Json.memberDocuments, h]

/-- Among members with different names, a name is given its value once or not at all. -/
theorem valuesOf_memberDocuments {members : List (String × Json)}
    (h : (members.map Prod.fst).Nodup) (name : String) :
    valuesOf name (Json.memberDocuments members) =
      ((members.lookup name).map Json.document).toList := by
  induction members with
  | nil => rfl
  | cons m ms ih =>
    obtain ⟨hm, hms⟩ := List.nodup_cons.1 h
    rw [valuesOf_cons, ih hms, Dict.lookup_cons]
    by_cases hname : m.1 = name
    · subst hname
      have hnone : ms.lookup m.1 = none := by
        rw [← Option.not_isSome_iff_eq_none, Dict.isSome_lookup_iff_mem_map]
        exact hm
      rw [if_pos rfl, if_pos rfl, hnone]
      rfl
    · rw [if_neg hname, if_neg hname]

theorem memberSlots?_memberDocuments {members : List (String × Json)}
    (h : (members.map Prod.fst).Nodup) (names : List String) :
    memberSlots? (Json.memberDocuments members) names =
      some (names.map fun name => (members.lookup name).map Json.document) := by
  induction names with
  | nil => rfl
  | cons name names ih =>
    rw [memberSlots?, valuesOf_memberDocuments h, ih, List.map_cons]
    cases members.lookup name <;> rfl

end Document

/-! ## Reading in a layout -/

namespace Json.Layout

variable {α : Type} {lay : Json → Json}

/-- The names of a structured reader are given the members of an object, laid out. -/
theorem slots? (h : Layout lay) {j : Json} (hj : j.Distinct) (names : List String) :
    (lay j).document.slots? names =
      some (names.map fun name => (j.get? name).map fun v => (lay v).document) := by
  cases hj with | @object members hnames => ?_
  obtain ⟨others, hlay, hperm⟩ := h.object hnames
  have hlaid : ((members.map fun m => (m.1, lay m.2)).map Prod.fst).Nodup := by
    rw [List.map_map]
    exact hnames
  have hothers : (others.map Prod.fst).Nodup := (hperm.map Prod.fst).nodup_iff.2 hlaid
  rw [hlay, document, Document.slots?, if_pos (Document.namesReadable_memberDocuments others),
    Document.memberSlots?_memberDocuments hothers]
  refine congrArg some (List.map_congr_left fun name _ => ?_)
  rw [Dict.lookup_perm hperm hlaid, Dict.lookup_map, Option.map_map, get?, member?,
    Dict.get?_ofList, Dict.lookup_perm members.reverse_perm hnames]
  rfl

theorem text? (h : Layout lay) (s : String) : Document.text? (lay (.text s)).document = some s := by
  rw [h.text]
  rfl

/-- A list is read back when its items are. -/
theorem list? (h : Layout lay) {json : α → Json} {read? : Document → Option α} {f : α → α}
    (hread : ∀ x, read? (lay (json x)).document = some (f x)) (xs : List α) :
    Document.list? read? (lay (.array (xs.map json))).document = some (xs.map f) := by
  rw [h.array, document, documents_eq_map, Document.list?]
  induction xs with
  | nil => rfl
  | cons x xs ih =>
    rw [List.map_cons, List.map_cons, List.map_cons, List.mapM_cons, hread x, ih]
    rfl

theorem entries?_texts (es : List (String × String)) :
    Document.entries? Document.text? (memberDocuments (es.map fun e => (e.1, .text e.2))) =
      some es := by
  induction es with
  | nil => rfl
  | cons e es ih =>
    rw [List.map_cons, memberDocuments, document, Document.entries?, ih]
    rfl

/-- A dictionary is read back, in whatever order its entries are written. -/
theorem dict? (h : Layout lay) (d : Dict String) :
    Document.dict? Document.text? (lay (ofDict d)).document = some d := by
  have hnames : ((d.entries.map fun e => (e.1, Json.text e.2)).map Prod.fst).Nodup := by
    rw [List.map_map]
    exact Dict.nodup_keys d
  have htexts : (d.entries.map fun e => (e.1, Json.text e.2)).map (fun m => (m.1, lay m.2)) =
      d.entries.map fun e => (e.1, Json.text e.2) := by
    rw [List.map_map]
    exact List.map_congr_left fun e _ => by rw [Function.comp_apply, h.text]
  obtain ⟨others, hlay, hperm⟩ := h.object hnames
  rw [htexts] at hperm
  -- the members that were written are the entries of the dictionary in some order
  obtain ⟨es, rfl, hes⟩ :=
    (congrFun (congrFun (List.eq_map_comp_perm _) others) d.entries).mpr hperm
  rw [ofDict, hlay, document, Document.dict?, entries?_texts, Option.map_some, Dict.ofList_perm hes]

/-- A text that has to be given is read back. -/
theorem required_text (h : Layout lay) (s : String) :
    Document.required Document.text? ((some (.text s)).map fun v => (lay v).document) = some s := by
  rw [Option.map_some, h.text]
  rfl

/-- A text that may be missing is read back, and so is a missing one. -/
theorem defaulted_optional (h : Layout lay) (o : Option String) :
    Document.defaulted none (Document.nullable? Document.text?)
      ((o.map Json.text).map fun v => (lay v).document) = some o := by
  cases o with
  | none => rfl
  | some s =>
    rw [Option.map_some, Option.map_some, h.text]
    rfl

/-- What is left out only when it is the default is read back. -/
theorem defaulted_unless {json : α → Json} {read? : Document → Option α} {default x : α}
    {omitted : Bool} (homitted : omitted = true → x = default)
    (hread : read? (lay (json x)).document = some x) :
    Document.defaulted default read?
      ((if omitted then none else some (json x)).map fun v => (lay v).document) = some x := by
  cases omitted with
  | true => rw [homitted rfl]; rfl
  | false => exact hread

end Json.Layout

/-! ## What is written -/

/-- Of settings, a fallback that is not there and an empty collection of messages are left out. -/
theorem Settings.get?_json (s : Settings) :
    s.json.get? "locale" = some s.locale.json ∧
    s.json.get? "fallback_message" = s.fallback.map .text ∧
    s.json.get? "messages" = if s.messages.isEmpty then none else some (.ofDict s.messages) := by
  rw [json]
  cases s.fallback <;> cases s.messages.isEmpty <;>
    simp [Json.get?, Json.member?, Dict.get?_ofList, Json.optionalMember, Dict.lookup_cons]

theorem Settings.distinct_json (s : Settings) : s.json.Distinct := by
  refine .object ?_
  cases s.fallback <;> cases s.messages.isEmpty <;> simp [Json.optionalMember]

/-- Of a rule line, a label that is not there is left out. -/
theorem FieldRule.get?_json (r : FieldRule) :
    r.json.get? "field" = some (.text r.field) ∧ r.json.get? "rules" = some (.text r.line) ∧
    r.json.get? "label" = r.label.map .text := by
  rw [json]
  cases r.label <;>
    simp [Json.get?, Json.member?, Dict.get?_ofList, Json.optionalMember, Dict.lookup_cons]

theorem FieldRule.distinct_json (r : FieldRule) : r.json.Distinct := by
  refine .object ?_
  cases r.label <;> simp [Json.optionalMember]

/-- Of a failure, an empty parameter is left out, and the value never is. -/
theorem Failure.get?_json (f : Failure) :
    f.json.get? "field" = some (.text f.field) ∧ f.json.get? "label" = some (.text f.label) ∧
    f.json.get? "rule" = some (.text f.rule) ∧
    f.json.get? "param" = (if f.param.isEmpty then none else some (.text f.param)) ∧
    f.json.get? "value" = some f.value ∧ f.json.get? "message" = some (.text f.message) := by
  rw [json]
  cases f.param.isEmpty <;>
    simp [Json.get?, Json.member?, Dict.get?_ofList, Dict.lookup_cons]

theorem Failure.distinct_json (f : Failure) : f.json.Distinct := by
  refine .object ?_
  cases f.param.isEmpty <;> simp

/-! ## Reading things back -/

section

variable {lay : Json → Json} (h : Json.Layout lay)

include h

theorem Locale.read?_json (l : Locale) : Locale.read? (lay l.json).document = some l := by
  rw [json, h.text]
  cases l <;> rfl

theorem Settings.read?_json (s : Settings) : Settings.read? (lay s.json).document = some s := by
  obtain ⟨hlocale, hfallback, hmessages⟩ := s.get?_json
  have hread := Json.Layout.defaulted_unless (fun hempty => Dict.eq_empty_of_isEmpty hempty)
    (h.dict? s.messages)
  rw [read?, h.slots? s.distinct_json, List.map_cons, List.map_cons, List.map_cons, List.map_nil,
    hlocale, hfallback, hmessages]
  simp only [h.defaulted_optional, hread]
  rw [Option.map_some, Document.defaulted, Locale.read?_json h]

theorem FieldRule.read?_json (r : FieldRule) :
    FieldRule.read? (lay r.json).document = some r := by
  obtain ⟨hfield, hline, hlabel⟩ := r.get?_json
  rw [read?, h.slots? r.distinct_json, List.map_cons, List.map_cons, List.map_cons, List.map_nil,
    hfield, hline, hlabel]
  simp only [h.required_text, h.defaulted_optional]

theorem FieldRules.read?_json (rs : FieldRules) :
    FieldRules.read? (lay rs.json).document = some rs := by
  rw [read?, json, h.list? (FieldRule.read?_json h), List.map_id', Option.map_some]

theorem Catalog.read?_json (c : Catalog) : Catalog.read? (lay c.json).document = some c := by
  have hnames : c.json.Distinct := .object (by simp)
  rw [read?, h.slots? hnames]
  simp [json, Json.get?, Json.member?, Dict.get?_ofList, Dict.lookup_cons, Document.required,
    h.dict?, h.text?]

/-- A failure is read back, with its value as it is laid out. -/
theorem Failure.read?_json (f : Failure) :
    Failure.read? (lay f.json).document = some { f with value := lay f.value } := by
  obtain ⟨hfield, hlabel, hrule, hparam, hvalue, hmessage⟩ := f.get?_json
  have hread := Json.Layout.defaulted_unless (fun hempty => String.isEmpty_iff.1 hempty)
    (h.text? f.param)
  have hgiven : Document.required Document.value? ((some f.value).map fun v => (lay v).document) =
      some (lay f.value) := Document.value?_document _
  rw [read?, h.slots? f.distinct_json]
  simp only [List.map_cons, List.map_nil, hfield, hlabel, hrule, hparam, hvalue, hmessage,
    h.required_text, hread, hgiven]

/-- A report is read back, with the values of its failures as they are laid out. -/
theorem Report.read?_json (r : Report) :
    Report.read? (lay r.json).document =
      some ⟨r.failures.map fun f => { f with value := lay f.value }⟩ := by
  rw [read?, json, h.list? (Failure.read?_json h), Option.map_some]

theorem Envelope.Entry.read?_json (e : Envelope.Entry) :
    Envelope.Entry.read? (lay e.json).document = some e := by
  have hnames : e.json.Distinct := .object (by simp)
  rw [read?, h.slots? hnames]
  simp [json, Json.get?, Json.member?, Dict.get?_ofList, Dict.lookup_cons, Document.required,
    h.text?]

theorem Envelope.readBody?_json (e : Envelope) :
    Envelope.readBody? (lay (.object [("type", .text e.kind), ("message", .text e.message),
      ("fields", .array (e.fields.map Envelope.Entry.json))])).document = some e := by
  have hfields := h.list? (Envelope.Entry.read?_json h) e.fields
  rw [List.map_id'] at hfields
  rw [readBody?, h.slots? (.object (by simp))]
  simp [Json.get?, Json.member?, Dict.get?_ofList, Dict.lookup_cons, Document.required, h.text?,
    hfields]

theorem Envelope.read?_json (e : Envelope) : Envelope.read? (lay e.json).document = some e := by
  have hnames : e.json.Distinct := .object (by simp)
  rw [read?, h.slots? hnames]
  simp [json, Json.get?, Json.member?, Dict.get?_ofList, Dict.lookup_cons, Document.required,
    Envelope.readBody?_json h]

end

/-- **What is written is read back**: as it stands, and in every layout, where reports need values
that are laid out already.  A fallback, messages, a label and a parameter are left out when they are
not there, and only then; a value is written even when it is `null`. -/
theorem Document.read?_of_written :
    ((∀ s : Settings, Settings.read? s.json.document = some s) ∧
      (∀ rs : FieldRules, FieldRules.read? rs.json.document = some rs) ∧
      (∀ c : Catalog, Catalog.read? c.json.document = some c) ∧
      (∀ r : Report, Report.read? r.json.document = some r) ∧
      ∀ e : Envelope, Envelope.read? e.json.document = some e) ∧
    (∀ lay : Json → Json, Json.Layout lay →
      (∀ s : Settings, Settings.read? (lay s.json).document = some s) ∧
      (∀ rs : FieldRules, FieldRules.read? (lay rs.json).document = some rs) ∧
      (∀ c : Catalog, Catalog.read? (lay c.json).document = some c) ∧
      (∀ r : Report, (∀ f ∈ r.failures, lay f.value = f.value) →
        Report.read? (lay r.json).document = some r) ∧
      ∀ e : Envelope, Envelope.read? (lay e.json).document = some e) ∧
    (∀ s : Settings, s.json.get? "fallback_message" = s.fallback.map .text ∧
      s.json.get? "messages" = if s.messages.isEmpty then none else some (.ofDict s.messages)) ∧
    (∀ r : FieldRule, r.json.get? "label" = r.label.map .text) ∧
    ∀ f : Failure,
      f.json.get? "param" = (if f.param.isEmpty then none else some (.text f.param)) ∧
      f.json.get? "value" = some f.value := by
  have hreport : ∀ lay : Json → Json, Json.Layout lay → ∀ r : Report,
      (∀ f ∈ r.failures, lay f.value = f.value) → Report.read? (lay r.json).document = some r := by
    intro lay h r hvalues
    have hsame : r.failures.map (fun f => { f with value := lay f.value }) =
        r.failures.map fun f => f := List.map_congr_left fun f hf => by rw [hvalues f hf]
    rw [Report.read?_json h, hsame, List.map_id']
  refine ⟨?_, ?_, ?_, ?_, ?_⟩
  · have h := Json.Layout.id
    exact ⟨Settings.read?_json h, FieldRules.read?_json h, Catalog.read?_json h,
      fun r => hreport _ h r fun _ _ => rfl, Envelope.read?_json h⟩
  · intro lay h
    exact ⟨Settings.read?_json h, FieldRules.read?_json h, Catalog.read?_json h, hreport lay h,
      Envelope.read?_json h⟩
  · exact fun s => s.get?_json.2
  · exact fun r => r.get?_json.2.2
  · intro f
    obtain ⟨-, -, -, hparam, hvalue, -⟩ := f.get?_json
    exact ⟨hparam, hvalue⟩

/-- A report of which one value is `null` and the other an object. -/
def Report.parcel : Report :=
  ⟨[⟨"size", "Size", "required", "", .null, "Size is required"⟩,
    ⟨"box", "box", "max", "1", .object [("high", .null), ("wide", .number (.int 3))],
      "box must be at most 1"⟩]⟩

/-- Written with its members in the order of their names, the report is read back; so are settings
of which nothing but the locale is written. -/
theorem Document.read?_of_written_parcel :
    Report.read? Report.parcel.json.canonical.document = some Report.parcel ∧
    Settings.read? (Settings.mk .chinese none .empty).json.document =
      some ⟨.chinese, none, .empty⟩ ∧
    (Settings.mk .chinese none .empty).json = .object [("locale", .text "zh-CN")] := by
  have h := Document.read?_of_written
  refine ⟨(h.2.1 _ Json.Layout.canonical).2.2.2.1 _ ?_, h.1.1 _, rfl⟩
  intro f hf
  rcases List.mem_cons.1 hf with rfl | hf
  · rfl
  · rcases List.mem_singleton.1 hf with rfl
    rfl

end RecordCheck
