import RecordCheck.Proofs.SerialName

/-!
# What the attributes of a field say

Of `validate` and of `label` a field may have one attribute each.  A second one, or one with
arguments that mean nothing, is a misuse, and the attributes of a field are read to their end
exactly if there is none.  What is read then is what the attributes say, wherever they stand: the
role, the label, and the last of the serialization names.

* `FieldRole.read_eq_ok_iff`, `Attribute.labelText_eq_ok_iff` — the arguments that mean something.
* `Attribute.Misused` — the two ways to misuse a name.
* `Attribute.SaidOnce` — one attribute of a name at most, and what it means.
* `FieldMarks.Describes` — marks that say what some attributes say, none of them misused.
* `FieldMarks.Describes.add`, `FieldMarks.Describes.foldlM` — one more attribute, and any number.
-/

namespace RecordCheck

/-! ## Arguments -/

/-- The arguments of `validate` that give a role. -/
inductive FieldRole.IsArgument : Option (List Token) → FieldRole → Prop where
  | checked (source line : String) : IsArgument (some [.text source line]) (.checked line)
  | embedded : IsArgument (some [.word "embed"]) .embedded

/-- The arguments of `label` that give a label. -/
inductive Attribute.IsLabel : Option (List Token) → String → Prop where
  | text (source label : String) : IsLabel (some [.text source label]) label

theorem FieldRole.read_eq_ok_iff {arguments : Option (List Token)} {role : FieldRole} :
    FieldRole.read arguments = .ok role ↔ FieldRole.IsArgument arguments role := by
  constructor
  · intro h
    unfold read at h
    split at h
    · cases h
      exact .checked ..
    · next name =>
      by_cases hname : name = "embed"
      · rw [if_pos hname] at h
        cases h
        rw [hname]
        exact .embedded
      · rw [if_neg hname] at h
        split at h <;> cases h
    · cases h
  · intro h
    cases h with
    | checked => rfl
    | embedded => rfl

theorem Attribute.labelText_eq_ok_iff {arguments : Option (List Token)} {label : String} :
    Attribute.labelText arguments = .ok label ↔ Attribute.IsLabel arguments label := by
  constructor
  · intro h
    unfold labelText at h
    split at h <;> cases h
    exact .text ..
  · intro h
    cases h with
    | text => rfl

namespace Attribute

/-! ## One attribute of a name -/

section

variable {α : Type} {name : String} {Means : Option (List Token) → α → Prop}
  {attributes : List Attribute} {o : Option α} {a : Attribute} {x : α}

/-- Some attribute of this name means this. -/
def Say (name : String) (Means : Option (List Token) → α → Prop) (attributes : List Attribute)
    (x : α) : Prop :=
  ∃ a ∈ attributes, a.isNamed name = true ∧ Means a.arguments x

/-- There are two attributes of this name, or one that means nothing. -/
inductive Misused (name : String) (Means : Option (List Token) → α → Prop)
    (attributes : List Attribute) : Prop where
  | repeated (h : 2 ≤ attributes.countP (isNamed name))
  | meaningless {a : Attribute} (ha : a ∈ attributes) (hname : a.isNamed name = true)
      (h : ∀ x, ¬ Means a.arguments x)

/-- At most one attribute has this name, and it means what an option holds. -/
structure SaidOnce (name : String) (Means : Option (List Token) → α → Prop)
    (attributes : List Attribute) (o : Option α) : Prop where
  eq_some_iff : ∀ x, o = some x ↔ Say name Means attributes x
  count : attributes.countP (isNamed name) = o.toList.length
  exists_means : ∀ a ∈ attributes, a.isNamed name = true → ∃ x, Means a.arguments x

theorem Misused.append (h : Misused name Means attributes) (more : List Attribute) :
    Misused name Means (attributes ++ more) := by
  cases h with
  | repeated h =>
    refine .repeated ?_
    rw [List.countP_append]
    omega
  | meaningless ha hname h => exact .meaningless (List.mem_append_left _ ha) hname h

theorem saidOnce_nil : SaidOnce name Means [] none where
  eq_some_iff x := by simp [Say]
  count := rfl
  exists_means a ha := absurd ha List.not_mem_nil

/-- An attribute of another name changes nothing. -/
theorem SaidOnce.concat_other (h : SaidOnce name Means attributes o)
    (ha : a.isNamed name = false) : SaidOnce name Means (attributes ++ [a]) o where
  eq_some_iff x := by
    rw [h.eq_some_iff]
    simp [Say, or_and_right, exists_or, ha]
  count := by
    rw [List.countP_append, h.count, List.countP_singleton, ha]
    rfl
  exists_means b hb hname := by
    obtain hb | hb := List.mem_append.1 hb
    · exact h.exists_means b hb hname
    · rw [List.mem_singleton.1 hb, ha] at hname
      cases hname

/-- The first attribute of a name means what it says. -/
theorem SaidOnce.concat (h : SaidOnce name Means attributes none) (ha : a.isNamed name = true)
    (hx : ∀ y, Means a.arguments y ↔ y = x) :
    SaidOnce name Means (attributes ++ [a]) (some x) where
  eq_some_iff y := by
    have hnone : ¬ Say name Means attributes y := by
      rw [← h.eq_some_iff]
      exact nofun
    rw [Option.some.injEq, eq_comm, ← hx]
    constructor
    · intro hy
      exact ⟨a, List.mem_concat_self, ha, hy⟩
    · rintro ⟨b, hb, hname, hy⟩
      obtain hb | hb := List.mem_append.1 hb
      · exact absurd ⟨b, hb, hname, hy⟩ hnone
      · rwa [← List.mem_singleton.1 hb]
  count := by
    rw [List.countP_append, h.count, List.countP_singleton, if_pos ha]
    rfl
  exists_means b hb hname := by
    obtain hb | hb := List.mem_append.1 hb
    · exact h.exists_means b hb hname
    · rw [List.mem_singleton.1 hb]
      exact ⟨x, (hx x).2 rfl⟩

/-- A second attribute of a name misuses it. -/
theorem SaidOnce.misused_concat (h : SaidOnce name Means attributes (some x))
    (ha : a.isNamed name = true) : Misused name Means (attributes ++ [a]) := by
  refine .repeated ?_
  rw [List.countP_append, h.count, List.countP_singleton, if_pos ha]
  exact Nat.le_refl 2

/-- Reading one more attribute of a name, of which there may be one only, fails exactly if it
misuses the name. -/
theorem SaidOnce.read_concat {ε : Type} {read : Option (List Token) → Except ε α}
    (hread : ∀ {arguments x}, read arguments = .ok x ↔ Means arguments x)
    (h : SaidOnce name Means attributes o) (ha : a.isNamed name = true) (again : ε) :
    (∃ x, (if o.isSome then .error again else read a.arguments) = .ok x ∧
        SaidOnce name Means (attributes ++ [a]) (some x)) ∨
      (∃ e, (if o.isSome then .error again else read a.arguments) = .error e) ∧
        Misused name Means (attributes ++ [a]) := by
  cases o with
  | some x => exact .inr ⟨⟨again, rfl⟩, h.misused_concat ha⟩
  | none =>
    rw [Option.isSome_none, if_neg Bool.false_ne_true]
    cases hx : read a.arguments with
    | ok x =>
      refine .inl ⟨x, rfl, h.concat ha ?_⟩
      intro y
      rw [← hread, hx, Except.ok.injEq, eq_comm]
    | error e =>
      refine .inr ⟨⟨e, rfl⟩, .meaningless List.mem_concat_self ha ?_⟩
      intro x hmeans
      rw [← hread, hx] at hmeans
      cases hmeans

theorem SaidOnce.not_misused (h : SaidOnce name Means attributes o) :
    ¬ Misused name Means attributes := by
  intro hmisused
  cases hmisused with
  | repeated hcount =>
    rw [h.count] at hcount
    cases o with
    | none => cases hcount
    | some x => exact absurd hcount (Nat.not_succ_le_self 1)
  | meaningless ha hname hnone =>
    obtain ⟨x, hx⟩ := h.exists_means _ ha hname
    exact hnone x hx

end

/-! ## Names of attributes -/

variable {attributes : List Attribute} {names : List String} {a : Attribute}

theorem isNamed_iff {name : String} : a.isNamed name = true ↔ a.path = [.word name] := by
  unfold isNamed
  constructor
  · intro h
    split at h
    · next hpath => rw [hpath, eq_of_beq h]
    · cases h
  · intro h
    rw [h]
    exact beq_self_eq_true name

/-- An attribute has one name at most. -/
theorem isNamed_eq_false {name other : String} (h : a.isNamed name = true)
    (hother : name ≠ other) : a.isNamed other = false := by
  rw [isNamed_iff] at h
  unfold isNamed
  rw [h]
  exact beq_false_of_ne hother

/-- The names that the last attribute says are said after all others. -/
theorem RenamesAll.of_concat (h : RenamesAll (attributes ++ [a]) names) :
    ∃ old new, names = old ++ new ∧ RenamesAll attributes old ∧ RenamesAll [a] new := by
  induction attributes generalizing names with
  | nil => exact ⟨[], names, rfl, .nil, h⟩
  | cons b attributes ih =>
    cases h with
    | serde hb hrenames h =>
      obtain ⟨old, new, rfl, hold, hnew⟩ := ih h
      exact ⟨_ ++ old, new, (List.append_assoc ..).symm, .serde hb hrenames hold, hnew⟩
    | other hb h =>
      obtain ⟨old, new, rfl, hold, hnew⟩ := ih h
      exact ⟨old, new, rfl, .other hb hold, hnew⟩

theorem renamesAll_singleton (h : RenamesAll [a] names) :
    (a.isNamed "serde" = true ∧ Renames a.arguments names) ∨
      (a.isNamed "serde" = false ∧ names = []) := by
  cases h with
  | serde ha hrenames h =>
    cases h
    rw [List.append_nil]
    exact .inl ⟨ha, hrenames⟩
  | other ha h =>
    cases h
    exact .inr ⟨ha, rfl⟩

end Attribute

/-! ## Marks -/

/-- Some attributes misuse `validate` or `label`. -/
def Attribute.AnyMisused (attributes : List Attribute) : Prop :=
  Attribute.Misused "validate" FieldRole.IsArgument attributes ∨
    Attribute.Misused "label" Attribute.IsLabel attributes

theorem Attribute.AnyMisused.append {attributes : List Attribute}
    (h : Attribute.AnyMisused attributes) (more : List Attribute) :
    Attribute.AnyMisused (attributes ++ more) :=
  h.imp (·.append more) (·.append more)

namespace FieldMarks

variable {m : FieldMarks} {attributes : List Attribute} {a : Attribute}

/-- The marks are what some attributes say, none of them misused.  The serialization name is the
last one that is said, if the attributes that say it are well formed. -/
structure Describes (m : FieldMarks) (attributes : List Attribute) : Prop where
  role : Attribute.SaidOnce "validate" FieldRole.IsArgument attributes m.role
  label : Attribute.SaidOnce "label" Attribute.IsLabel attributes m.label
  serialName : ∀ names, Attribute.RenamesAll attributes names → m.serialName = names.getLast?

theorem describes_nil : Describes {} [] where
  role := Attribute.saidOnce_nil
  label := Attribute.saidOnce_nil
  serialName names h := by
    cases h with
    | nil => rfl

theorem Describes.not_anyMisused (h : m.Describes attributes) :
    ¬ Attribute.AnyMisused attributes := by
  rintro (hrole | hlabel)
  · exact h.role.not_misused hrole
  · exact h.label.not_misused hlabel

/-- Other attributes than `serde` say no serialization name. -/
theorem Describes.serialName_concat (h : m.Describes attributes) (ha : a.isNamed "serde" = false)
    (names : List String) (hnames : Attribute.RenamesAll (attributes ++ [a]) names) :
    m.serialName = names.getLast? := by
  obtain ⟨old, new, rfl, hold, hnew⟩ := hnames.of_concat
  obtain ⟨ha', -⟩ | ⟨-, rfl⟩ := Attribute.renamesAll_singleton hnew
  · rw [ha] at ha'
    cases ha'
  · rw [List.append_nil, h.serialName old hold]

/-! ### One more attribute -/

/-- What one more attribute does: the marks describe it too, or it is misused. -/
inductive Adds (m : FieldMarks) (attributes : List Attribute) (a : Attribute) : Prop where
  | ok {m' : FieldMarks} (h : m.add a = .ok m') (hm : m'.Describes (attributes ++ [a]))
  | error {e : DeriveError} (h : m.add a = .error e)
      (hm : Attribute.AnyMisused (attributes ++ [a]))

theorem Describes.add_validate (h : m.Describes attributes) (ha : a.isNamed "validate" = true) :
    m.Adds attributes a := by
  have hadd : m.add a =
      (if m.role.isSome then .error .repeatedRole else FieldRole.read a.arguments).map
        fun role => { m with role := some role } := by
    simp only [FieldMarks.add, Attribute.isNamed_iff.1 ha]
    split <;> rfl
  obtain ⟨role, hok, hsaid⟩ | ⟨⟨e, herror⟩, hmisused⟩ :=
    h.role.read_concat FieldRole.read_eq_ok_iff ha .repeatedRole
  · rw [hok] at hadd
    refine .ok hadd ⟨hsaid, ?_, ?_⟩
    · exact h.label.concat_other (Attribute.isNamed_eq_false ha (by decide))
    · exact h.serialName_concat (Attribute.isNamed_eq_false ha (by decide))
  · rw [herror] at hadd
    exact .error hadd (.inl hmisused)

theorem Describes.add_label (h : m.Describes attributes) (ha : a.isNamed "label" = true) :
    m.Adds attributes a := by
  have hadd : m.add a =
      (if m.label.isSome then .error .repeatedLabel else Attribute.labelText a.arguments).map
        fun label => { m with label := some label } := by
    simp only [FieldMarks.add, Attribute.isNamed_iff.1 ha]
    split <;> rfl
  obtain ⟨label, hok, hsaid⟩ | ⟨⟨e, herror⟩, hmisused⟩ :=
    h.label.read_concat Attribute.labelText_eq_ok_iff ha .repeatedLabel
  · rw [hok] at hadd
    refine .ok hadd ⟨?_, hsaid, ?_⟩
    · exact h.role.concat_other (Attribute.isNamed_eq_false ha (by decide))
    · exact h.serialName_concat (Attribute.isNamed_eq_false ha (by decide))
  · rw [herror] at hadd
    exact .error hadd (.inr hmisused)

theorem Describes.add_serde (h : m.Describes attributes) (ha : a.isNamed "serde" = true) :
    m.Adds attributes a := by
  have hpath : a.path = [.word "serde"] := Attribute.isNamed_iff.1 ha
  have hadd : m.add a =
      .ok { m with serialName := Attribute.serialName m.serialName a.arguments } := by
    simp only [FieldMarks.add, hpath]
  refine .ok hadd ⟨?_, ?_, ?_⟩
  · exact h.role.concat_other (Attribute.isNamed_eq_false ha (by decide))
  · exact h.label.concat_other (Attribute.isNamed_eq_false ha (by decide))
  · intro names hnames
    obtain ⟨old, new, rfl, hold, hnew⟩ := hnames.of_concat
    obtain ⟨-, hrenames⟩ | ⟨ha', -⟩ := Attribute.renamesAll_singleton hnew
    · change Attribute.serialName m.serialName a.arguments = _
      rw [Attribute.serialName_of_renames hrenames, h.serialName old hold, List.getLast?_append]
    · rw [ha] at ha'
      cases ha'

/-- **One more attribute** is described by the marks too, unless it is misused. -/
theorem Describes.add (h : m.Describes attributes) (a : Attribute) : m.Adds attributes a := by
  by_cases hv : a.isNamed "validate" = true
  · exact h.add_validate hv
  by_cases hl : a.isNamed "label" = true
  · exact h.add_label hl
  by_cases hs : a.isNamed "serde" = true
  · exact h.add_serde hs
  have hadd : m.add a = .ok m := by
    rw [Attribute.isNamed_iff] at hv hl hs
    unfold FieldMarks.add
    split
    · next hpath => exact absurd hpath hv
    · next hpath => exact absurd hpath hl
    · next hpath => exact absurd hpath hs
    · rfl
  rw [Bool.not_eq_true] at hv hl hs
  exact .ok hadd ⟨h.role.concat_other hv, h.label.concat_other hl, h.serialName_concat hs⟩

/-! ### All attributes -/

/-- The attributes of a field are read to the end, and the marks describe them, exactly if none is
misused. -/
theorem Describes.foldlM (h : m.Describes attributes) (more : List Attribute) :
    (∃ m', more.foldlM FieldMarks.add m = .ok m' ∧ m'.Describes (attributes ++ more)) ∨
      (∃ e, more.foldlM FieldMarks.add m = .error e) ∧
        Attribute.AnyMisused (attributes ++ more) := by
  induction more generalizing m attributes with
  | nil =>
    rw [List.append_nil]
    exact .inl ⟨m, rfl, h⟩
  | cons a more ih =>
    rw [List.foldlM_cons, List.append_cons]
    cases h.add a with
    | ok hadd hm =>
      rw [hadd]
      exact ih hm
    | @error e hadd hm =>
      rw [hadd]
      exact .inr ⟨⟨e, rfl⟩, hm.append more⟩

/-- The marks of a field describe its attributes, unless they are misused. -/
theorem ofAttributes_cases (attributes : List Attribute) :
    (∃ m, ofAttributes attributes = .ok m ∧ m.Describes attributes) ∨
      (∃ e, ofAttributes attributes = .error e) ∧ Attribute.AnyMisused attributes :=
  describes_nil.foldlM attributes

end FieldMarks

end RecordCheck
