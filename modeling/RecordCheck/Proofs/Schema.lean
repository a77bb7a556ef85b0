import RecordCheck.Schema

/-!
# What the steps of a schema come to

A schema is declared step by step.  Two kinds of steps declare an entry; the other two say something
about the field that was declared last, and nothing when the last entry is an embedded record.  So
the record that a schema makes can be read off its steps: each declaration is an entry, and what the
steps up to the next declaration say last is what counts.

* `Schema.Step`, `Schema.build` — the steps and the schema that they describe.
* `Schema.listing` — the record read off the steps.
* `Schema.foldl_apply_of_notes`, `Schema.foldl_annotate_field` — the steps between two declarations.
* `Schema.bind_foldl_apply`, `Schema.bind_build` — the record of a schema is the one read off its
  steps.
* `Schema.build_notes_append`, `Schema.build_embed_notes_append` — the steps that change nothing.
* `Schema.build_reads_as_listing` — this, entry by entry, and what it means for checks.
-/

namespace RecordCheck.Schema

variable {ρ : Type}

/-! ## Steps -/

/-- A step of a schema for values of type `ρ`. -/
inductive Step (ρ : Type) where
  /-- Declares a field. -/
  | field (name line : String) (access : ρ → Value)
  /-- Declares an embedded record. -/
  | embed (access : ρ → List Entry)
  /-- Labels the field that was declared last. -/
  | label (text : String)
  /-- Gives the field that was declared last a serialization name. -/
  | serialName (text : String)

/-- The schema after a step. -/
def apply (s : Schema ρ) : Step ρ → Schema ρ
  | .field name line access => s.field name line access
  | .embed access => s.embed access
  | .label text => s.label text
  | .serialName text => s.serialName text

/-- The schema that some steps describe. -/
def build (steps : List (Step ρ)) : Schema ρ :=
  steps.foldl apply empty

namespace Step

/-- Does a step declare an entry? -/
def declares : Step ρ → Bool
  | .field .. | .embed _ => true
  | .label _ | .serialName _ => false

/-- The label that a step gives. -/
def label? : Step ρ → Option String
  | .label text => some text
  | _ => none

/-- The serialization name that a step gives. -/
def serialName? : Step ρ → Option String
  | .serialName text => some text
  | _ => none

/-- What steps say last before they declare the next entry. -/
def lastSaid (said? : Step ρ → Option String) (steps : List (Step ρ)) : Option String :=
  ((steps.takeWhile fun step => !step.declares).filterMap said?).getLast?

end Step

/-- The record that is read off some steps: an entry for each declaration, and for a field what is
said last before the next declaration. -/
def listing (value : ρ) : List (Step ρ) → List Entry
  | [] => []
  | .field name line access :: steps =>
    .field {
      name := name
      label := Step.lastSaid Step.label? steps
      serialName := Step.lastSaid Step.serialName? steps
      line := line
      value := access value } :: listing value steps
  | .embed access :: steps => .embedded (access value) :: listing value steps
  | .label _ :: steps | .serialName _ :: steps => listing value steps

/-! ## One step -/

theorem changeLast_concat (change : Item ρ → Item ρ) (items : List (Item ρ)) (item : Item ρ) :
    changeLast change (items ++ [item]) = items ++ [change item] := by
  induction items with
  | nil => rfl
  | cons i is ih =>
    cases is with
    | nil => rfl
    | cons j js =>
      rw [List.cons_append, List.cons_append, changeLast, ← List.cons_append, ih,
        List.cons_append, List.cons_append]
      · rfl
      · exact List.cons_ne_nil _ _

theorem length_changeLast (change : Item ρ → Item ρ) (items : List (Item ρ)) :
    (changeLast change items).length = items.length := by
  rcases List.eq_nil_or_concat items with rfl | ⟨before, item, rfl⟩
  · rfl
  · rw [List.concat_eq_append, changeLast_concat, List.length_append, List.length_append]
    rfl

/-- An entry after a step that says something about it. -/
def Item.annotate (item : Item ρ) : Step ρ → Item ρ
  | .label text => item.setLabel text
  | .serialName text => item.setSerialName text
  | .field .. | .embed _ => item

/-- A step that declares nothing changes the last entry alone. -/
theorem apply_concat {step : Step ρ} (h : step.declares = false) (items : List (Item ρ))
    (item : Item ρ) :
    apply ⟨items ++ [item]⟩ step = ⟨items ++ [item.annotate step]⟩ := by
  cases step with
  | field => cases h
  | embed => cases h
  | label text => exact congrArg Schema.mk (changeLast_concat _ items item)
  | serialName text => exact congrArg Schema.mk (changeLast_concat _ items item)

theorem apply_empty {step : Step ρ} (h : step.declares = false) : apply empty step = empty := by
  cases step with
  | field => cases h
  | embed => cases h
  | label => rfl
  | serialName => rfl

theorem size_apply (s : Schema ρ) (step : Step ρ) :
    (s.apply step).size = s.size + if step.declares then 1 else 0 := by
  cases step with
  | field => exact List.length_append
  | embed => exact List.length_append
  | label => exact length_changeLast _ _
  | serialName => exact length_changeLast _ _

/-! ## The steps between two declarations -/

/-- Steps that declare nothing change the last entry alone. -/
theorem foldl_apply_of_notes {own : List (Step ρ)} (h : ∀ step ∈ own, step.declares = false)
    (items : List (Item ρ)) (item : Item ρ) :
    own.foldl apply ⟨items ++ [item]⟩ = ⟨items ++ [own.foldl Item.annotate item]⟩ := by
  induction own generalizing item with
  | nil => rfl
  | cons step steps ih =>
    rw [List.foldl_cons, apply_concat (h step (List.mem_cons_self ..)),
      ih fun other hother => h other (List.mem_cons_of_mem _ hother)]
    rfl

theorem foldl_apply_empty {own : List (Step ρ)} (h : ∀ step ∈ own, step.declares = false) :
    own.foldl apply empty = empty := by
  induction own with
  | nil => rfl
  | cons step steps ih =>
    rw [List.foldl_cons, apply_empty (h step (List.mem_cons_self ..)),
      ih fun other hother => h other (List.mem_cons_of_mem _ hother)]

/-- Nothing can be said about an embedded record. -/
theorem foldl_annotate_embedded (own : List (Step ρ)) (access : ρ → List Entry) :
    own.foldl Item.annotate (.embedded access) = .embedded access := by
  induction own with
  | nil => rfl
  | cons step steps ih => cases step <;> exact ih

/-- Of a field, what is said last counts. -/
theorem foldl_annotate_field (own : List (Step ρ)) (name line : String)
    (label serialName : Option String) (access : ρ → Value) :
    own.foldl Item.annotate (.field name label serialName line access) =
      .field name ((own.filterMap Step.label?).getLast?.or label)
        ((own.filterMap Step.serialName?).getLast?.or serialName) line access := by
  induction own generalizing label serialName with
  | nil => rfl
  | cons step steps ih =>
    cases step with
    | field => exact ih label serialName
    | embed => exact ih label serialName
    | label text =>
      rw [List.foldl_cons, Item.annotate, Item.setLabel, ih]
      simp [Step.label?, Step.serialName?, List.getLast?_cons]
    | serialName text =>
      rw [List.foldl_cons, Item.annotate, Item.setSerialName, ih]
      simp [Step.label?, Step.serialName?, List.getLast?_cons]

/-! ## The record of a schema -/

/-- After the entries of a schema comes what is read off the steps that follow, which can still say
something about the last entry. -/
theorem bind_foldl_apply (value : ρ) (steps : List (Step ρ)) (items : List (Item ρ))
    (item : Item ρ) :
    (steps.foldl apply ⟨items ++ [item]⟩).bind value =
      items.map (Item.entry value) ++
        ((steps.takeWhile fun step => !step.declares).foldl Item.annotate item).entry value ::
          listing value steps := by
  induction steps generalizing items item with
  | nil => exact List.map_append
  | cons step steps ih =>
    rw [List.foldl_cons]
    cases step with
    | field name line access =>
      -- the entry that was last so far is complete, and the field takes its place
      have hfield := ih (items ++ [item]) (.field name none none line access)
      rw [foldl_annotate_field, Option.or_none, Option.or_none, List.map_append,
        List.append_assoc (items.map _)] at hfield
      exact hfield
    | embed access =>
      have hembed := ih (items ++ [item]) (.embedded access)
      rw [foldl_annotate_embedded, List.map_append, List.append_assoc (items.map _)] at hembed
      exact hembed
    | label text =>
      rw [apply_concat rfl, ih]
      rfl
    | serialName text =>
      rw [apply_concat rfl, ih]
      rfl

/-- The record of a schema is the one that is read off its steps. -/
theorem bind_build (value : ρ) (steps : List (Step ρ)) :
    (build steps).bind value = listing value steps := by
  induction steps with
  | nil => rfl
  | cons step steps ih =>
    rw [build, List.foldl_cons]
    cases step with
    | field name line access =>
      have hfield := bind_foldl_apply value steps [] (.field name none none line access)
      rw [foldl_annotate_field, Option.or_none, Option.or_none] at hfield
      exact hfield
    | embed access =>
      have hembed := bind_foldl_apply value steps [] (.embedded access)
      rw [foldl_annotate_embedded] at hembed
      exact hembed
    | label text => rw [apply_empty rfl]; exact ih
    | serialName text => rw [apply_empty rfl]; exact ih

theorem size_foldl_apply (steps : List (Step ρ)) (s : Schema ρ) :
    (steps.foldl apply s).size = s.size + steps.countP Step.declares := by
  induction steps generalizing s with
  | nil => rfl
  | cons step steps ih =>
    rw [List.foldl_cons, ih, size_apply, List.countP_cons]
    omega

/-- A schema has an entry for each step that declares one. -/
theorem size_build (steps : List (Step ρ)) : (build steps).size = steps.countP Step.declares :=
  (size_foldl_apply steps empty).trans (Nat.zero_add _)

/-! ## The listing, entry by entry -/

theorem length_listing (value : ρ) (steps : List (Step ρ)) :
    (listing value steps).length = steps.countP Step.declares := by
  rw [← bind_build, bind, List.length_map, ← size_build, size]

/-- Only what is said up to the next declaration counts. -/
theorem lastSaid_append (said? : Step ρ → Option String) (before : List (Step ρ))
    {after : List (Step ρ)} (h : ∀ step ∈ after.head?, step.declares = true) :
    Step.lastSaid said? (before ++ after) = Step.lastSaid said? before := by
  have hafter : after.takeWhile (fun step => !step.declares) = [] := by
    cases after with
    | nil => rfl
    | cons step steps => exact List.takeWhile_cons_of_neg (by simp [h step rfl])
  rw [Step.lastSaid, List.takeWhile_append, hafter, List.append_nil, Step.lastSaid]
  split
  case isTrue hall => rw [(List.takeWhile_prefix _).eq_of_length hall]
  case isFalse => rfl

theorem lastSaid_of_notes (said? : Step ρ → Option String) {own : List (Step ρ)}
    (h : ∀ step ∈ own, step.declares = false) :
    Step.lastSaid said? own = (own.filterMap said?).getLast? := by
  have hown : (own ++ []).takeWhile (fun step => !step.declares) = own ++ [] :=
    List.takeWhile_append_of_pos fun step hstep => by rw [h step hstep]; rfl
  rw [List.append_nil] at hown
  rw [Step.lastSaid, hown]

/-- The entries of a listing come in the order of their declarations. -/
theorem listing_append (value : ρ) (before : List (Step ρ)) {after : List (Step ρ)}
    (h : ∀ step ∈ after.head?, step.declares = true) :
    listing value (before ++ after) = listing value before ++ listing value after := by
  induction before with
  | nil => rfl
  | cons step steps ih =>
    cases step with
    | field => rw [List.cons_append, listing, listing, lastSaid_append _ _ h,
        lastSaid_append _ _ h, ih, List.cons_append]
    | embed => rw [List.cons_append, listing, listing, ih, List.cons_append]
    | label => exact ih
    | serialName => exact ih

theorem getElem?_listing (value : ρ) (before : List (Step ρ)) {step : Step ρ}
    (h : step.declares = true) (after : List (Step ρ)) :
    (listing value (before ++ step :: after))[before.countP Step.declares]? =
      (listing value (step :: after)).head? := by
  have hhead : ∀ other ∈ (step :: after).head?, other.declares = true := by
    rintro other ⟨⟩
    exact h
  rw [listing_append value before hhead, ← length_listing value before,
    List.getElem?_append_right (Nat.le_refl _), Nat.sub_self, List.head?_eq_getElem?]

/-! ## Steps that say something about nothing -/

theorem build_append (before after : List (Step ρ)) :
    build (before ++ after) = after.foldl apply (build before) :=
  List.foldl_append

/-- Before any declaration, nothing can be said. -/
theorem build_notes_append {own : List (Step ρ)} (h : ∀ step ∈ own, step.declares = false)
    (after : List (Step ρ)) : build (own ++ after) = build after := by
  rw [build_append, build, foldl_apply_empty h, build]

/-- Of an embedded record, nothing can be said. -/
theorem build_embed_notes_append (before : List (Step ρ)) (access : ρ → List Entry)
    {own : List (Step ρ)} (h : ∀ step ∈ own, step.declares = false) (after : List (Step ρ)) :
    build (before ++ .embed access :: (own ++ after)) =
      build (before ++ .embed access :: after) := by
  have hown : own.foldl apply ((build before).apply (.embed access)) =
      (build before).apply (.embed access) := by
    rw [apply, embed, foldl_apply_of_notes h, foldl_annotate_embedded]
  rw [build_append, build_append, List.foldl_cons, List.foldl_append, hown, List.foldl_cons]

/-! ## Schemas read as listings -/

/-- **A schema can be read off its steps.**  The record that a value makes with it has an entry for
each declaration, in order.  A field has the label and the serialization name that are given last
before the next declaration, and none when none is given; labels and serialization names before any
declaration, or after an embedded record, change nothing.  So checking a value against a schema is
checking the record that lists these entries. -/
theorem build_reads_as_listing (value : ρ) :
    (∀ steps, (build steps).bind value = listing value steps ∧
      (build steps).size = steps.countP Step.declares ∧
      ((build steps).bind value).length = steps.countP Step.declares) ∧
    (∀ before own after name line access, (∀ step ∈ own, step.declares = false) →
      (∀ step ∈ after.head?, step.declares = true) →
      ((build (before ++ .field name line access :: (own ++ after))).bind value)[
          before.countP Step.declares]? =
        some (.field {
          name := name
          label := (own.filterMap Step.label?).getLast?
          serialName := (own.filterMap Step.serialName?).getLast?
          line := line
          value := access value })) ∧
    (∀ before after access,
      ((build (before ++ .embed access :: after)).bind value)[before.countP Step.declares]? =
        some (.embedded (access value))) ∧
    (∀ own after : List (Step ρ), (∀ step ∈ own, step.declares = false) →
      build (own ++ after) = build after) ∧
    (∀ (before own after : List (Step ρ)) access, (∀ step ∈ own, step.declares = false) →
      build (before ++ .embed access :: (own ++ after)) =
        build (before ++ .embed access :: after)) ∧
    ∀ steps depth v, Run.validateWith depth (build steps) value v =
      Run.validate depth (listing value steps) v := by
  refine ⟨?_, ?_, ?_, ?_, ?_, ?_⟩
  · intro steps
    refine ⟨bind_build value steps, size_build steps, ?_⟩
    rw [bind_build, length_listing]
  · intro before own after name line access hown hafter
    rw [bind_build, getElem?_listing value before rfl, listing, lastSaid_append _ _ hafter,
      lastSaid_append _ _ hafter, lastSaid_of_notes _ hown, lastSaid_of_notes _ hown]
    rfl
  · intro before after access
    rw [bind_build, getElem?_listing value before rfl]
    rfl
  · intro own after hown
    exact build_notes_append hown after
  · intro before own after access hown
    exact build_embed_notes_append before access hown after
  · intro steps depth v
    rw [Run.validateWith, bind_build]

/-- A schema for a size with a color.  A label comes first of all, and one comes after the embedded
record. -/
def parcelSteps : List (Step (Int64 × String)) :=
  [.label "first", .field "size" "min=2" fun p => .int p.1, .label "a", .serialName "s", .label "b",
    .embed fun p => [.field ⟨"color", none, none, "required", .text p.2⟩], .label "lost",
    .field "note" "required" fun p => .text p.2]

/-- The size has the label that is given last before the embedded record; the labels that come first
and after the embedded record change nothing. -/
theorem build_reads_as_listing_parcel :
    ((build parcelSteps).bind (3, "red"))[0]? =
      some (.field ⟨"size", some "b", some "s", "min=2", .int 3⟩) ∧
    ((build parcelSteps).bind (3, "red"))[1]? =
      some (.embedded [.field ⟨"color", none, none, "required", .text "red"⟩]) ∧
    build parcelSteps = build (parcelSteps.drop 1) ∧
    build parcelSteps = build (parcelSteps.take 6 ++ parcelSteps.drop 7) ∧
    (build parcelSteps).size = 3 := by
  have h := build_reads_as_listing ((3, "red") : Int64 × String)
  refine ⟨?_, ?_, ?_, ?_, ?_⟩
  · exact h.2.1 [.label "first"] [.label "a", .serialName "s", .label "b"] (parcelSteps.drop 5)
      _ _ _ (by simp [Step.declares]) (by simp [parcelSteps, Step.declares])
  · exact h.2.2.1 (parcelSteps.take 5) (parcelSteps.drop 6) _
  · exact h.2.2.2.1 [.label "first"] (parcelSteps.drop 1) (by simp [Step.declares])
  · exact h.2.2.2.2.1 (parcelSteps.take 5) [.label "lost"] (parcelSteps.drop 7) _
      (by simp [Step.declares])
  · exact (h.1 parcelSteps).2.1

end RecordCheck.Schema
