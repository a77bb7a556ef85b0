import Mathlib.Data.List.Forall2
import RecordCheck.Declaration
import RecordCheck.Proofs.FieldMarks
import RecordCheck.Proofs.Walk

/-!
# What a declaration lists

A declaration with named fields is refused exactly if some field, whoever may see it, misuses its
attributes.  Otherwise the listing follows the fields in order.  A public field shows its embedded
record, or itself with its rule line, which is empty if it has none; what is listed is what the
fields show, without the fields whose line switches checking off.  A check never misses these.

* `FieldDeclaration.Shows` — what a field shows.
* `FieldDeclaration.listed_eq_error_iff` — the fields for which a declaration is refused.
* `Run.validate_filter_isSkipped` — a check does not miss fields that are switched off.
* `Declaration.listing_shown` — the listing of a declaration.
-/

namespace RecordCheck

/-! ## What a field shows -/

/-- Is the entry a field whose line switches checking off? -/
def ListedEntry.isSkipped : ListedEntry → Bool
  | .field _ _ _ line _ => RuleLine.isSkip line
  | .embedded _ => false

/-- A declared name, and the name without the mark `r#`. -/
inductive IsBareName (declared : String) : String → Prop where
  | marked {name : String} (h : declared = "r#" ++ name) : IsBareName declared name
  | plain (h : ∀ name, declared ≠ "r#" ++ name) : IsBareName declared declared

theorem isBareName_unmarked (declared : String) : IsBareName declared (unmarked declared) := by
  unfold unmarked
  split
  · next rest h =>
    refine .marked (String.toList_inj.1 ?_)
    rw [h, String.toList_append, String.toList_ofList, String.toList_ofList]
    rfl
  · next h =>
    refine .plain ?_
    rintro name rfl
    rw [String.toList_append] at h
    exact h name.toList rfl

namespace FieldDeclaration

/-- The rule line of a field: what its attribute says, and nothing if it has none. -/
inductive HasLine (f : FieldDeclaration) : String → Prop where
  | annotated {line : String}
      (h : Attribute.Say "validate" FieldRole.IsArgument f.attributes (.checked line)) :
      f.HasLine line
  | unannotated (h : ∀ a ∈ f.attributes, a.isNamed "validate" = false) : f.HasLine ""

/-- What a field shows.  A public field shows its embedded record, or itself with its bare name,
its label, the last serialization name that is said, and its rule line. -/
inductive Shows (f : FieldDeclaration) : Option ListedEntry → Prop where
  | hidden (h : f.visibility ≠ .everyone) : f.Shows none
  | embedded (h : f.visibility = .everyone)
      (hrole : Attribute.Say "validate" FieldRole.IsArgument f.attributes .embedded) :
      f.Shows (some (.embedded f.name))
  | field (h : f.visibility = .everyone) {name line : String} {label : Option String}
      {names : List String} (hname : IsBareName f.name name)
      (hlabel : ∀ text, label = some text ↔
        Attribute.Say "label" Attribute.IsLabel f.attributes text)
      (hnames : Attribute.RenamesAll f.attributes names) (hline : f.HasLine line) :
      f.Shows (some (.field name label names.getLast? line f.name))

variable {f : FieldDeclaration} {m : FieldMarks}

/-- A field makes the entry that it shows, unless the line of the entry switches checking off. -/
theorem exists_shows (h : m.Describes f.attributes) {names : List String}
    (hnames : Attribute.RenamesAll f.attributes names) :
    ∃ shown, f.Shows shown ∧ f.entry? m = shown.filter (!·.isSkipped) := by
  by_cases hpublic : f.visibility = .everyone
  · unfold entry?
    rw [if_pos hpublic, h.serialName names hnames]
    have hname := isBareName_unmarked f.name
    cases hrole : m.role with
    | none =>
      have hcount := h.role.count
      rw [hrole, Option.toList_none, List.length_nil, List.countP_eq_zero] at hcount
      have hline : f.HasLine "" := .unannotated fun a ha => Bool.eq_false_iff.2 (hcount a ha)
      exact ⟨_, .field hpublic hname h.label.eq_some_iff hnames hline, rfl⟩
    | some role =>
      have hsay := (h.role.eq_some_iff role).1 hrole
      cases role with
      | embedded => exact ⟨_, .embedded hpublic hsay, rfl⟩
      | checked line =>
        refine ⟨_, .field hpublic hname h.label.eq_some_iff hnames (.annotated hsay), ?_⟩
        by_cases hskip : RuleLine.isSkip line = true
        · simp [Option.filter, ListedEntry.isSkipped, hskip]
        · simp [Option.filter, ListedEntry.isSkipped, hskip]
  · unfold entry?
    rw [if_neg hpublic]
    exact ⟨none, .hidden hpublic, rfl⟩

/-- A field is refused exactly if it misuses its attributes. -/
theorem listed_eq_error_iff :
    (∃ e, f.listed = .error e) ↔ Attribute.AnyMisused f.attributes := by
  rw [listed]
  obtain ⟨m, hok, hm⟩ | ⟨⟨e, herror⟩, hmisused⟩ := FieldMarks.ofAttributes_cases f.attributes
  · rw [hok]
    exact iff_of_false nofun hm.not_anyMisused
  · rw [herror]
    exact iff_of_true ⟨e, rfl⟩ hmisused

theorem exists_listed_shows (h : ¬ Attribute.AnyMisused f.attributes)
    (hserde : ∃ names, Attribute.RenamesAll f.attributes names) :
    ∃ listed, f.listed = .ok listed ∧
      ∃ shown, f.Shows shown ∧ listed.map (·.1) = shown.filter (!·.isSkipped) := by
  obtain ⟨names, hnames⟩ := hserde
  obtain ⟨m, hok, hm⟩ | ⟨-, hmisused⟩ := FieldMarks.ofAttributes_cases f.attributes
  · obtain ⟨shown, hshown, hentry⟩ := exists_shows hm hnames
    refine ⟨_, by rw [listed, hok]; rfl, shown, hshown, ?_⟩
    rw [← hentry, Option.map_map]
    cases f.entry? m <;> rfl
  · exact absurd hmisused h

end FieldDeclaration

/-! ## Checking without the skipped fields -/

/-- Is the entry a field whose line switches checking off? -/
def Entry.isSkipped : Entry → Bool
  | .field f => RuleLine.isSkip f.line
  | .embedded _ => false

/-- A skipped entry is checked against nothing. -/
theorem Validator.checkEntry_of_isSkipped (v : Validator)
    (ask : View → String → String → Run Bool) {e : Entry} (h : e.isSkipped = true) :
    v.checkEntry ask e = Run.pure [] := by
  cases e with
  | field f =>
    have hrules : RuleLine.rules f.line = [] := by
      rw [RuleLine.rules]
      exact if_pos h
    rw [checkEntry, checkField, hrules, RuleTable.firstFailing, Run.pure_bind, Run.pure_bind]
    rfl
  | embedded entries => cases h

theorem Validator.checkEntries_filter_isSkipped (v : Validator)
    (ask : View → String → String → Run Bool) (es : List Entry) :
    v.checkEntries ask (es.filter (!·.isSkipped)) = v.checkEntries ask es := by
  induction es with
  | nil => rfl
  | cons e es ih =>
    by_cases h : e.isSkipped = true
    · rw [List.filter_cons_of_neg (by simp [h]), ih, checkEntries,
        checkEntry_of_isSkipped v ask h, Run.pure_bind]
      exact (Run.bind_pure _).symm
    · rw [List.filter_cons_of_pos (by simp [h]), checkEntries, checkEntries, ih]

/-- **A check does not miss fields that are switched off.** -/
theorem Run.validate_filter_isSkipped (depth : Nat) (record : List Entry) :
    Run.validate depth (record.filter (!·.isSkipped)) = Run.validate depth record := by
  simp only [Run.validate, Validator.checkEntries_filter_isSkipped]

/-- Listing entries and leaving out the skipped ones makes the same record in either order. -/
theorem Listing.bind_filter_isSkipped (l : Listing) (entries : List ListedEntry)
    (value : String → Value) (inner : String → List Entry) :
    Listing.bind { l with entries := entries.filter (!·.isSkipped) } value inner =
      (Listing.bind { l with entries } value inner).filter (!·.isSkipped) := by
  rw [Listing.bind, Listing.bind, List.filter_map]
  congr 1
  refine List.filter_congr ?_
  intro e _
  cases e <;> rfl

/-! ## Lists of results -/

section

variable {α β ε : Type} {g : α → Except ε β} {as : List α}

theorem mapM_eq_error_iff :
    (∃ e, as.mapM g = .error e) ↔ ∃ a ∈ as, ∃ e, g a = .error e := by
  induction as with
  | nil => exact iff_of_false nofun (by simp)
  | cons a as ih =>
    rw [List.mapM_cons, List.exists_mem_cons_iff, ← ih]
    cases ha : g a with
    | error e => exact iff_of_true ⟨e, rfl⟩ (.inl ⟨e, rfl⟩)
    | ok b =>
      cases has : as.mapM g with
      | error e => exact iff_of_true ⟨e, rfl⟩ (.inr ⟨e, rfl⟩)
      | ok bs => exact iff_of_false nofun (by simp)

theorem exists_mapM_eq_ok {P : α → β → Prop} (h : ∀ a ∈ as, ∃ b, g a = .ok b ∧ P a b) :
    ∃ bs, as.mapM g = .ok bs ∧ List.Forall₂ P as bs := by
  induction as with
  | nil => exact ⟨[], rfl, .nil⟩
  | cons a as ih =>
    obtain ⟨b, hb, hab⟩ := h a (List.mem_cons_self ..)
    obtain ⟨bs, hbs, has⟩ := ih fun c hc => h c (List.mem_cons_of_mem _ hc)
    refine ⟨b :: bs, ?_, .cons hab has⟩
    rw [List.mapM_cons, hb, hbs]
    rfl

end

/-! ## Listings -/

theorem filterMap_id_cons {α : Type} (o : Option α) (os : List (Option α)) :
    (o :: os).filterMap id = o.toList ++ os.filterMap id := by
  cases o <;> rfl

namespace Declaration

variable {d : Declaration} {fields : List FieldDeclaration}

/-- A declaration is refused exactly if one of its fields is. -/
theorem listing_eq_error_iff (h : d.shape = .fields fields) :
    (∃ e, d.listing = .error e) ↔ ∃ f ∈ fields, Attribute.AnyMisused f.attributes := by
  have hmap : (∃ e, d.listing = .error e) ↔
      ∃ e, fields.mapM FieldDeclaration.listed = .error e := by
    rw [listing, h]
    dsimp only
    cases fields.mapM FieldDeclaration.listed with
    | error e => exact iff_of_true ⟨e, rfl⟩ ⟨e, rfl⟩
    | ok listed => exact iff_of_false nofun nofun
  simp only [hmap, mapM_eq_error_iff, FieldDeclaration.listed_eq_error_iff]

/-- If each field has what it shows and is not skipped, so has the list of all. -/
theorem exists_forall₂_shows {listed : List (Option (ListedEntry × Demand))}
    (h : List.Forall₂ (fun f l => ∃ shown, FieldDeclaration.Shows f shown ∧
      l.map (·.1) = shown.filter (!·.isSkipped)) fields listed) :
    ∃ shown, List.Forall₂ FieldDeclaration.Shows fields shown ∧
      (listed.filterMap id).map (·.1) = (shown.filterMap id).filter (!·.isSkipped) := by
  induction h with
  | nil => exact ⟨[], .nil, rfl⟩
  | @cons f l fields listed hfl _ ih =>
    obtain ⟨shown, hshown, hl⟩ := hfl
    obtain ⟨more, hmore, hrest⟩ := ih
    refine ⟨shown :: more, .cons hshown hmore, ?_⟩
    rw [filterMap_id_cons, filterMap_id_cons, List.map_append, List.filter_append, hrest,
      ← Option.toList_map, ← Option.toList_filter, hl]

/-- **What a declaration lists.**  A declaration with named fields is refused exactly if some
field, public or not, has two `validate` or two `label` attributes, or one with wrong arguments.
Otherwise, if its `serde` attributes are well formed, it lists in order what its fields show,
except for those whose rule line switches checking off; and no check would end differently if
these were listed too. -/
theorem listing_shown (h : d.shape = .fields fields) :
    ((∃ e, d.listing = .error e) ↔ ∃ f ∈ fields, Attribute.AnyMisused f.attributes) ∧
    ((∀ f ∈ fields, ¬ Attribute.AnyMisused f.attributes) →
      (∀ f ∈ fields, ∃ names, Attribute.RenamesAll f.attributes names) →
      ∃ l shown, d.listing = .ok l ∧ List.Forall₂ FieldDeclaration.Shows fields shown ∧
        l.entries = (shown.filterMap id).filter (!·.isSkipped) ∧
        ∀ depth value inner,
          Run.validate depth (Listing.bind { l with entries := shown.filterMap id } value inner) =
            Run.validate depth (l.bind value inner)) := by
  refine ⟨listing_eq_error_iff h, ?_⟩
  intro hused hserde
  obtain ⟨listed, hlisted, hall⟩ := exists_mapM_eq_ok fun f hf =>
    FieldDeclaration.exists_listed_shows (hused f hf) (hserde f hf)
  obtain ⟨shown, hshown, hentries⟩ := exists_forall₂_shows hall
  have hlisting : d.listing = .ok ⟨(listed.filterMap id).map (·.1), d.conditions,
      if d.parameters.list.isEmpty then [] else (listed.filterMap id).map (·.2)⟩ := by
    rw [listing, h]
    dsimp only
    rw [hlisted]
    rfl
  refine ⟨_, shown, hlisting, hshown, hentries, ?_⟩
  intro depth value inner
  rw [← Run.validate_filter_isSkipped, ← Listing.bind_filter_isSkipped, hentries]

/-- A word, an equals sign and a text. -/
def setTo (name value : String) : List Token :=
  [.word name, .mark '=' false, .text value value]

/-- Items that set a default and give the written and the read side names of their own, and one
that is only a flag. -/
def kilograms : List Token :=
  setTo "default" "one" ++ .mark ',' false ::
    ([.word "rename", .group .round
        (setTo "serialize" "kg" ++ .mark ',' false :: setTo "deserialize" "mass")] ++
      .mark ',' false :: [.word "borrow"])

theorem renames_kilograms : Attribute.Renames (some kilograms) ["kg"] := by
  have hpath (name : String) : Token.IsPath [.word name] [name] := .plain (.last name)
  have hdefault : Attribute.IsItem (setTo "default" "one") [] :=
    .value (hpath "default") (by decide) false (.text "one" "one")
  have hserialize : Attribute.IsSetting (setTo "serialize" "kg") ["kg"] :=
    .serialize (hpath "serialize") false "kg" "kg"
  have hdeserialize : Attribute.IsSetting (setTo "deserialize" "mass") [] :=
    .other (hpath "deserialize") (by decide) false "mass" "mass"
  have hrename := Attribute.IsItem.renameSides (hpath "rename")
    (.cons hserialize false (.last hdeserialize))
  have hborrow : Attribute.IsItem [.word "borrow"] [] := .flag (hpath "borrow") (by decide)
  exact .items (.cons hdefault false (.cons hrename false (.last hborrow)))

/-- A field that embeds, one with a rule line, one that is switched off, one without attributes,
and one that is not public. -/
def parcelFields : List FieldDeclaration :=
  [⟨.everyone, "r#box", [.word "Size"], [⟨[.word "validate"], some [.word "embed"]⟩]⟩,
    ⟨.everyone, "r#mod", [.word "u32"],
      [⟨[.word "serde"], some kilograms⟩, ⟨[.word "validate"], some [.text "min=1" "min=1"]⟩,
        ⟨[.word "label"], some [.text "Weight" "Weight"]⟩]⟩,
    ⟨.everyone, "note", [.word "u32"], [⟨[.word "validate"], some [.text "-" "-"]⟩]⟩,
    ⟨.everyone, "free", [.word "u32"], []⟩,
    ⟨.restricted, "code", [.word "u32"], [⟨[.word "validate"], some [.text "min=1" "min=1"]⟩]⟩]

def parcel : Declaration :=
  { name := "Parcel", shape := .fields parcelFields }

/-- Two of five fields are listed, and leaving out two of the others is never missed; one label
that is no text would refuse all of them. -/
theorem listing_shown_parcel :
    (∃ l shown, parcel.listing = .ok l ∧
      List.Forall₂ FieldDeclaration.Shows parcelFields shown ∧
      l.entries = [.embedded "r#box",
        .field "mod" (some "Weight") (some "kg") "min=1" "r#mod"] ∧
      l.entries = (shown.filterMap id).filter (!·.isSkipped) ∧
      ∀ depth value inner,
        Run.validate depth (Listing.bind { l with entries := shown.filterMap id } value inner) =
          Run.validate depth (l.bind value inner)) ∧
    ∃ e, Declaration.listing { parcel with
      shape := .fields (parcelFields ++ [⟨.owner, "last", [.word "u32"],
        [⟨[.word "label"], some [.literal "7"]⟩]⟩]) } = .error e := by
  have hlisting : parcel.listing = .ok ⟨[.embedded "r#box",
      .field "mod" (some "Weight") (some "kg") "min=1" "r#mod"], [], []⟩ := by
    have hname : Attribute.serialName none (some kilograms) = some "kg" :=
      Attribute.serialName_of_renames renames_kilograms none
    rw [← hname]
    rfl
  have hshown := @listing_shown parcel parcelFields rfl
  refine ⟨?_, ?_⟩
  · have hused : ∀ f ∈ parcelFields, ¬ Attribute.AnyMisused f.attributes := by
      intro f hf hmisused
      obtain ⟨e, he⟩ := hshown.1.2 ⟨f, hf, hmisused⟩
      rw [hlisting] at he
      cases he
    have hserde : ∀ f ∈ parcelFields, ∃ names, Attribute.RenamesAll f.attributes names := by
      simp only [parcelFields, List.forall_mem_cons]
      exact ⟨⟨_, .other rfl .nil⟩, ⟨_, .serde rfl renames_kilograms (.other rfl (.other rfl .nil))⟩,
        ⟨_, .other rfl .nil⟩, ⟨_, .nil⟩, ⟨_, .other rfl .nil⟩, nofun⟩
    obtain ⟨l, shown, hl, hrest⟩ := hshown.2 hused hserde
    obtain rfl := Except.ok.inj (hlisting.symm.trans hl)
    exact ⟨_, shown, hl, hrest.1, rfl, hrest.2⟩
  · refine (listing_shown rfl).1.2 ⟨_, List.mem_concat_self, .inr ?_⟩
    refine .meaningless (List.mem_cons_self ..) rfl ?_
    rintro label ⟨⟩

end Declaration

end RecordCheck
