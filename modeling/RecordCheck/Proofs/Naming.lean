import RecordCheck.Proofs.Substitution

/-!
# Messages that name their field

Every template of a locale begins with the placeholder for the label.  The label is put in first, and
the other placeholders are replaced afterwards in the whole text, the label included.  So a label that
holds none of them stands at the front of the message as it is, whatever else it holds; one that does
hold one is changed.

* `Placeholder.soughtLater` — the placeholders that are replaced when the label is in place.
* `Catalog.LeadsWithField` — what the templates of the locales have in common.
* `Catalog.render_ofLocale` — a message is what becomes of the label, and then the rest of the template.
* `not_infix_replaceEach` — what becomes of a label with a placeholder in it does not hold the label,
  and neither does the whole message.
* `Catalog.render_names_field` — which messages hold the label, and `Catalog.render_changes_label` — not
  all of them.
-/

namespace RecordCheck

open Text

/-! ## Replacing several placeholders -/

/-- Replaces some placeholders, one after the other. -/
def replaceEach (values : List (Placeholder × List Char)) (s : List Char) : List Char :=
  values.foldl (fun s v => replaceAll v.1.text v.2 s) s

/-- One of the placeholders stands somewhere in the text. -/
def HoldsOneOf (values : List (Placeholder × List Char)) (s : List Char) : Prop :=
  ∃ v ∈ values, v.1.text <:+: s

theorem replaceEach_cons (v : Placeholder × List Char) (vs : List (Placeholder × List Char))
    (s : List Char) : replaceEach (v :: vs) s = replaceEach vs (replaceAll v.1.text v.2 s) :=
  rfl

theorem Placeholder.text_ne_nil (p : Placeholder) : p.text ≠ [] := by
  rw [p.text_eq_cons]
  exact List.cons_ne_nil _ _

section ReplaceEach

variable {values : List (Placeholder × List Char)} {s t : List Char}

/-- A character that is in no placeholder parts a text into two. -/
theorem replaceEach_append_cons {c : Char} (hc : ∀ p : Placeholder, c ∉ p.text) (s t : List Char) :
    replaceEach values (s ++ c :: t) = replaceEach values s ++ c :: replaceEach values t := by
  induction values generalizing s t with
  | nil => rfl
  | cons v vs ih =>
    rw [replaceEach_cons, replaceAll_append_cons v.1.text_ne_nil (hc v.1), ih]
    rfl

theorem replaceEach_eq_self (h : ¬ HoldsOneOf values s) : replaceEach values s = s := by
  induction values with
  | nil => rfl
  | cons v vs ih =>
    have hfirst : ¬ v.1.text <:+: s := fun hs => h ⟨v, List.mem_cons_self .., hs⟩
    have hrest : ¬ HoldsOneOf vs s := by
      rintro ⟨w, hw, hs⟩
      exact h ⟨w, List.mem_cons_of_mem _ hw, hs⟩
    rw [replaceEach_cons, replaceAll_eq_self hfirst, ih hrest]

theorem count_replaceEach_le (h : ∀ v ∈ values, '{' ∉ v.2) (s : List Char) :
    (replaceEach values s).count '{' ≤ s.count '{' := by
  induction values generalizing s with
  | nil => exact le_rfl
  | cons v vs ih =>
    rw [List.forall_mem_cons] at h
    exact (ih h.2 _).trans (count_replaceAll_le h.1 v.1.text s)

/-- Every placeholder that is replaced takes its brace with it. -/
theorem count_replaceEach_lt (h : ∀ v ∈ values, '{' ∉ v.2) (hs : HoldsOneOf values s) :
    (replaceEach values s).count '{' < s.count '{' := by
  induction values with
  | nil =>
    obtain ⟨v, hv, -⟩ := hs
    cases hv
  | cons v vs ih =>
    rw [List.forall_mem_cons] at h
    rw [replaceEach_cons]
    by_cases hfirst : v.1.text <:+: s
    · refine (count_replaceEach_le h.2 _).trans_lt ?_
      rw [v.1.text_eq_cons] at hfirst ⊢
      exact count_replaceAll_lt h.1 hfirst
    · rw [replaceAll_eq_self hfirst]
      obtain ⟨w, hw, hws⟩ := hs
      rcases List.mem_cons.1 hw with rfl | hw
      · exact absurd hws hfirst
      · exact ih h.2 ⟨w, hw, hws⟩

end ReplaceEach

/-! ## A label with a placeholder in it -/

section Label

variable {values : List (Placeholder × List Char)} {c : Char} {tail : List Char}
  (hvalues : ∀ v ∈ values, '{' ∉ v.2) (hc : ∀ p : Placeholder, c ∉ p.text)
  (htail : ¬ HoldsOneOf values (c :: tail))

theorem HoldsOneOf.mono {s t : List Char} (h : HoldsOneOf values s) (hst : s <:+: t) :
    HoldsOneOf values t := by
  obtain ⟨v, hv, hs⟩ := h
  exact ⟨v, hv, hs.trans hst⟩

include htail

theorem not_holdsOneOf_of_beginning {t : List Char} (ht : t <+: c :: tail) : ¬ HoldsOneOf values t :=
  fun h => htail (h.mono ht.isInfix)

include hc

/-- What the rest of a message adds to a text is neither replaced nor part of a placeholder. -/
theorem replaceEach_append_beginning (s : List Char) {t : List Char} (ht : t <+: c :: tail) :
    replaceEach values (s ++ t) = replaceEach values s ++ t := by
  cases t with
  | nil => simp
  | cons d t =>
    obtain ⟨rfl, ht'⟩ := List.cons_prefix_cons.1 ht
    have hself : ¬ HoldsOneOf values t := fun h =>
      not_holdsOneOf_of_beginning htail ht (h.mono (List.suffix_cons d t).isInfix)
    rw [replaceEach_append_cons hc, replaceEach_eq_self hself]

theorem HoldsOneOf.of_append_beginning {s t : List Char} (h : HoldsOneOf values (s ++ t))
    (ht : t <+: c :: tail) : HoldsOneOf values s := by
  obtain ⟨v, hv, hst⟩ := h
  rcases List.infix_append_iff.1 hst with hs | hs | ⟨u, w, huw, hu, hw⟩
  · exact ⟨v, hv, hs⟩
  · exact absurd ⟨v, hv, hs⟩ (not_holdsOneOf_of_beginning htail ht)
  · cases w with
    | nil =>
      rw [List.append_nil] at huw
      exact ⟨v, hv, huw ▸ hu.isInfix⟩
    | cons d w =>
      obtain ⟨rfl, -⟩ := List.cons_prefix_cons.1 (hw.trans ht)
      exact absurd (by rw [huw]; simp) (hc v.1)

include hvalues

/-- A text with a placeholder in it is not the end of what becomes of it with a piece of the rest: it
would have to end with this piece, and what stands before it would be the end of what becomes of that,
again and again. -/
theorem not_suffix_replaceEach {s t : List Char} (hs : HoldsOneOf values s) (ht : t <+: c :: tail) :
    ¬ s <:+ replaceEach values s ++ t := by
  induction hn : s.length using Nat.strong_induction_on generalizing s with
  | _ n ih =>
    rintro ⟨before, hbefore⟩
    rcases List.append_eq_append_iff.1 hbefore with ⟨u, hu, rfl⟩ | ⟨u, -, rfl⟩
    · by_cases hempty : t = []
      · subst hempty
        have hcount := count_replaceEach_lt hvalues hs
        rw [hu, List.append_nil, List.count_append] at hcount
        omega
      · rw [replaceEach_append_beginning hc htail u ht] at hu
        have hshorter : u.length < n := by
          have hpositive := List.length_pos_iff.2 hempty
          rw [List.length_append] at hn
          omega
        exact ih u.length hshorter (hs.of_append_beginning hc htail ht) rfl ⟨before, hu.symm⟩
    · exact not_holdsOneOf_of_beginning htail ht (hs.mono (List.suffix_append u s).isInfix)

/-- **What becomes of a label with a placeholder in it does not hold the label**, and neither does a
message that goes on with the rest of a template. -/
theorem not_infix_replaceEach {label : List Char} (h : HoldsOneOf values label) :
    ¬ label <:+: replaceEach values label ++ c :: tail := by
  intro hinfix
  rcases List.infix_append_iff.1 hinfix with hfirst | hlast | ⟨u, w, rfl, hu, hw⟩
  · exact absurd (hfirst.count_le '{') (Nat.not_le.2 (count_replaceEach_lt hvalues h))
  · exact htail (h.mono hlast)
  · rw [replaceEach_append_beginning hc htail u hw] at hu
    exact not_suffix_replaceEach hvalues hc htail (h.of_append_beginning hc htail hw) hw hu

end Label

/-! ## What is left of a template -/

/-- What begins with an opening brace begins after a text without one. -/
theorem infix_of_infix_append {s t l : List Char} (hs : '{' ∉ s) (h : '{' :: l <:+: s ++ t) :
    '{' :: l <:+: t := by
  induction s with
  | nil => exact h
  | cons c cs ih =>
    rw [List.mem_cons, not_or] at hs
    rw [List.cons_append, List.infix_cons_iff, List.cons_prefix_cons] at h
    exact ih hs.2 (h.resolve_left fun hprefix => hs.1 hprefix.1)

namespace Piece

/-- A placeholder that stands in the text of pieces is one of them. -/
theorem hole_mem_of_infix {p : Placeholder} {pieces : List Piece}
    (h : p.text <:+: textOf pieces) : hole p ∈ pieces := by
  induction pieces with
  | nil => exact absurd (List.infix_nil.1 h) p.text_ne_nil
  | cons piece pieces ih =>
    have hcons : textOf (piece :: pieces) = piece.text ++ textOf pieces := List.flatMap_cons
    rw [hcons] at h
    cases piece with
    | char c hc =>
      have hmem : '{' ∉ [c] := by simpa using Ne.symm hc
      rw [p.text_eq_cons] at h
      have hrest := infix_of_infix_append hmem h
      rw [← p.text_eq_cons] at hrest
      exact List.mem_cons_of_mem _ (ih hrest)
    | hole q =>
      by_cases hq : p = q
      · subst hq
        exact List.mem_cons_self ..
      · have hprefix := Placeholder.not_prefix_text_append hq (textOf pieces)
        rw [text, q.text_eq_cons, List.cons_append, List.infix_cons_iff, ← List.cons_append,
          ← q.text_eq_cons] at h
        have htail := h.resolve_left hprefix
        rw [p.text_eq_cons] at htail
        have hrest := infix_of_infix_append q.brace_not_mem_tail_text htail
        rw [← p.text_eq_cons] at hrest
        exact List.mem_cons_of_mem _ (ih hrest)

/-- Putting in a text without opening braces makes no placeholders, and leaves none of its kind. -/
theorem hole_mem_flatMap_substitute {p q : Placeholder} {new : List Char} (hnew : '{' ∉ new)
    {pieces : List Piece} (h : hole q ∈ pieces.flatMap (substitute p (plain new hnew))) :
    hole q ∈ pieces ∧ q ≠ p := by
  obtain ⟨piece, hpiece, hq⟩ := List.mem_flatMap.1 h
  cases piece with
  | char c hc =>
    rw [substitute, List.mem_singleton] at hq
    cases hq
  | hole r =>
    rw [substitute] at hq
    split at hq
    · rw [plain, List.mem_map] at hq
      obtain ⟨c, -, hc⟩ := hq
      cases hc
    · next hr =>
      obtain rfl : q = r := Piece.hole.inj (List.mem_singleton.1 hq)
      exact ⟨hpiece, hr⟩

/-- Replacing placeholders in the text of pieces gives the text of pieces without them. -/
theorem exists_replaceEach_textOf {values : List (Placeholder × List Char)}
    (h : ∀ v ∈ values, '{' ∉ v.2) (pieces : List Piece) :
    ∃ left, replaceEach values (textOf pieces) = textOf left ∧
      ∀ p, hole p ∈ left → hole p ∈ pieces ∧ ∀ v ∈ values, p ≠ v.1 := by
  induction values generalizing pieces with
  | nil => exact ⟨pieces, rfl, fun p hp => ⟨hp, by simp⟩⟩
  | cons v vs ih =>
    rw [List.forall_mem_cons] at h
    have hstep := replaceAll_textOf v.1 (plain v.2 h.1) pieces
    rw [textOf_plain] at hstep
    obtain ⟨left, hleft, hholes⟩ := ih h.2 (pieces.flatMap (substitute v.1 (plain v.2 h.1)))
    refine ⟨left, by rw [replaceEach_cons, hstep, hleft], fun p hp => ?_⟩
    obtain ⟨hpieces, hlater⟩ := hholes p hp
    obtain ⟨hmem, hne⟩ := hole_mem_flatMap_substitute h.1 hpieces
    exact ⟨hmem, List.forall_mem_cons.2 ⟨hne, hlater⟩⟩

end Piece

/-- In a template whose opening braces begin placeholders, no placeholder that is replaced is left. -/
theorem not_holdsOneOf_replaceEach {values : List (Placeholder × List Char)} {s : List Char}
    (h : ∀ v ∈ values, '{' ∉ v.2) (hs : BracesBeginPlaceholders s) :
    ¬ HoldsOneOf values (replaceEach values s) := by
  rintro ⟨v, hv, hinfix⟩
  obtain ⟨pieces, rfl⟩ := Piece.exists_textOf hs
  obtain ⟨left, hleft, hholes⟩ := Piece.exists_replaceEach_textOf h pieces
  rw [hleft] at hinfix
  exact (hholes v.1 (Piece.hole_mem_of_infix hinfix)).2 v hv rfl

theorem not_holdsOneOf_cons {values : List (Placeholder × List Char)} {c : Char} {s : List Char}
    (hc : ∀ p : Placeholder, c ∉ p.text) (hs : ¬ HoldsOneOf values s) :
    ¬ HoldsOneOf values (c :: s) := by
  rintro ⟨v, hv, hinfix⟩
  rcases List.infix_cons_iff.1 hinfix with hprefix | hrest
  · refine hc v.1 ?_
    rw [v.1.text_eq_cons] at hprefix ⊢
    obtain ⟨rfl, -⟩ := List.cons_prefix_cons.1 hprefix
    exact List.mem_cons_self ..
  · exact hs ⟨v, hv, hrest⟩

/-! ## The templates of the locales -/

/-- The character is in no placeholder. -/
def Placeholder.isForeign (c : Char) : Bool :=
  Placeholder.all.all fun p => !p.text.contains c

theorem Placeholder.isForeign_iff {c : Char} :
    Placeholder.isForeign c = true ↔ ∀ p : Placeholder, c ∉ p.text := by
  rw [isForeign, List.all_eq_true]
  constructor
  · intro h p
    simpa using h p p.mem_all
  · intro h p _
    simpa using h p

/-- The template begins with the placeholder for the label, a character follows that is in no
placeholder, and the label is not asked for again. -/
structure LeadsWithField (template : List Char) : Prop where
  leads : Placeholder.field.text <+: template
  apart : (template.drop Placeholder.field.text.length).head?.any Placeholder.isForeign = true
  once : ¬ Placeholder.field.text <:+: template.drop Placeholder.field.text.length

instance (template : List Char) : Decidable (LeadsWithField template) :=
  decidable_of_iff
    (Placeholder.field.text <+: template ∧
      (template.drop Placeholder.field.text.length).head?.any Placeholder.isForeign = true ∧
      ¬ Placeholder.field.text <:+: template.drop Placeholder.field.text.length)
    ⟨fun h => ⟨h.1, h.2.1, h.2.2⟩, fun h => ⟨h.leads, h.apart, h.once⟩⟩

theorem LeadsWithField.exists_cons {template : List Char} (h : LeadsWithField template) :
    ∃ c rest, template = Placeholder.field.text ++ c :: rest ∧ (∀ p : Placeholder, c ∉ p.text) ∧
      ¬ Placeholder.field.text <:+: c :: rest := by
  obtain ⟨tail, rfl⟩ := h.leads
  have hdrop : (Placeholder.field.text ++ tail).drop Placeholder.field.text.length = tail :=
    List.drop_left
  have hapart := h.apart
  have honce := h.once
  rw [hdrop] at hapart honce
  cases tail with
  | nil => cases hapart
  | cons c rest => exact ⟨c, rest, rfl, Placeholder.isForeign_iff.1 hapart, honce⟩

namespace Catalog

theorem leadsWithField_ofLocale (l : Locale) (b : Builtin) :
    LeadsWithField ((ofLocale l).templateFor b.name).toList := by
  have htemplates : ∀ t ∈ l.templates, LeadsWithField t.2.toList := by
    cases l
    all_goals
      simp only [Locale.templates, Locale.englishTemplates, Locale.chineseTemplates,
        List.forall_mem_cons]
      repeat rw [String.toList_ofList]
      decide +kernel
  rw [templateFor, get?_ofLocale, Builtin.ofName?_name]
  exact htemplates _ (l.mem_templates b)

/-! ## Messages -/

/-- What is put in after the label, in order. -/
def laterValues (rule param : String) : List (Placeholder × List Char) :=
  (.param, param.toList) ::
    if rule = "range" ∧ param.toList.count '-' = 1 then
      [(.min, param.toList.takeWhile (· != '-')), (.max, (param.toList.dropWhile (· != '-')).tail)]
    else []

theorem values_eq_cons (rule label param : String) :
    values rule label param = (.field, label.toList) :: laterValues rule param :=
  rfl

end Catalog

/-- The placeholders that are replaced when the label is in place. -/
def Placeholder.soughtLater (rule param : String) : List Placeholder :=
  .param :: if rule = "range" ∧ param.toList.count '-' = 1 then [.min, .max] else []

namespace Catalog

theorem holdsOneOf_laterValues_iff {rule param : String} {s : List Char} :
    HoldsOneOf (laterValues rule param) s ↔
      ∃ p ∈ Placeholder.soughtLater rule param, p.text <:+: s := by
  have hnames : (laterValues rule param).map Prod.fst = Placeholder.soughtLater rule param := by
    rw [laterValues, Placeholder.soughtLater]
    split <;> rfl
  rw [← hnames]
  simp [HoldsOneOf]

theorem brace_not_mem_laterValues {param : String} (hparam : '{' ∉ param.toList) (rule : String) :
    ∀ v ∈ laterValues rule param, '{' ∉ v.2 := by
  have hvalues : ∀ v ∈ values rule "" param, '{' ∉ v.2 := brace_not_mem_values (by simp) hparam
  rw [values_eq_cons, List.forall_mem_cons] at hvalues
  exact hvalues.2

/-- A message is what becomes of the label, and then what becomes of the rest of the template. -/
theorem render_ofLocale (l : Locale) (b : Builtin) :
    ∃ c rest, (∀ p : Placeholder, c ∉ p.text) ∧ BracesBeginPlaceholders rest ∧
      ∀ label param : String, ((ofLocale l).render b.name label param).toList =
        replaceEach (laterValues b.name param) label.toList ++
          c :: replaceEach (laterValues b.name param) rest := by
  obtain ⟨c, rest, htemplate, hc, honce⟩ := (leadsWithField_ofLocale l b).exists_cons
  refine ⟨c, rest, hc, ?_, fun label param => ?_⟩
  · refine (bracesBeginPlaceholders_ofLocale l b.name).of_suffix ?_
    rw [htemplate]
    exact (List.suffix_cons c rest).trans (List.suffix_append _ _)
  · have hfill : fill ((ofLocale l).templateFor b.name).toList b.name.toList label.toList
        param.toList = replaceEach (values b.name label param)
          ((ofLocale l).templateFor b.name).toList := fill_eq_foldl ..
    rw [render, String.toList_ofList, hfill, htemplate, values_eq_cons, replaceEach_cons,
      replaceAll_append_self (Placeholder.text_ne_nil _), replaceAll_eq_self honce,
      replaceEach_append_cons hc]

/-- **Which messages name the field.**  Take the message of a locale for a built-in rule.  If none of
the placeholders that are replaced after the label stands in the label, the message begins with the
label, whatever characters the label and the parameter hold.  If the parameter holds no opening brace,
this is the only way: a label with such a placeholder in it is nowhere in the message. -/
theorem render_names_field (l : Locale) (b : Builtin) (label param : String) :
    ((∀ p ∈ Placeholder.soughtLater b.name param, ¬ p.text <:+: label.toList) →
      label.toList <+: ((ofLocale l).render b.name label param).toList) ∧
    ('{' ∉ param.toList →
      (label.toList <:+: ((ofLocale l).render b.name label param).toList ↔
        ∀ p ∈ Placeholder.soughtLater b.name param, ¬ p.text <:+: label.toList)) := by
  obtain ⟨c, rest, hc, hrest, hrender⟩ := render_ofLocale l b
  have hplain : (∀ p ∈ Placeholder.soughtLater b.name param, ¬ p.text <:+: label.toList) ↔
      ¬ HoldsOneOf (laterValues b.name param) label.toList := by
    rw [holdsOneOf_laterValues_iff]
    simp only [not_exists, not_and]
  have hbegins : ¬ HoldsOneOf (laterValues b.name param) label.toList →
      label.toList <+: ((ofLocale l).render b.name label param).toList := by
    intro hlabel
    rw [hrender, replaceEach_eq_self hlabel]
    exact List.prefix_append _ _
  rw [hplain]
  refine ⟨hbegins, fun hparam => ⟨?_, fun hlabel => (hbegins hlabel).isInfix⟩⟩
  intro hinfix hlabel
  have hvalues := brace_not_mem_laterValues hparam b.name
  have htail := not_holdsOneOf_cons hc (not_holdsOneOf_replaceEach hvalues hrest)
  rw [hrender] at hinfix
  exact not_infix_replaceEach hvalues hc htail hlabel hinfix

/-- Braces that are no placeholder sought later, with a parameter that is one; and a placeholder that is
sought later only if the parameter has two sides. -/
theorem render_names_field_braces :
    "{field} {min}\x7b".toList <+: ((ofLocale .english).render "eq" "{field} {min}\x7b" "{param}").toList ∧
    "{max}".toList <:+: ((ofLocale .chinese).render "range" "{max}" "12").toList ∧
    ¬ "{max}".toList <:+: ((ofLocale .chinese).render "range" "{max}" "1-2").toList := by
  refine ⟨(render_names_field .english .eq "{field} {min}\x7b" "{param}").1 (by decide), ?_, ?_⟩
  · exact ((render_names_field .chinese .range "{max}" "12").2 (by decide)).2 (by decide)
  · intro hinfix
    exact ((render_names_field .chinese .range "{max}" "1-2").2 (by decide)).1 hinfix .max
      (by decide) (by decide)

/-- A message need not hold the label: a label that is a placeholder is itself replaced. -/
theorem render_changes_label :
    ¬ ∀ (l : Locale) (b : Builtin) (label param : String),
      label.toList <:+: ((ofLocale l).render b.name label param).toList := by
  intro h
  have hlabel := h .english .min "{param}" "3"
  have hmessage : (ofLocale .english).render "min" "{param}" "3" = "3 must be at least 3" := by
    decide +kernel
  rw [Builtin.name, hmessage] at hlabel
  exact absurd hlabel (by decide)

end Catalog

end RecordCheck
