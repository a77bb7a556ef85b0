/-!
# Dictionaries

A dictionary maps texts to values.  Its entries are kept in the order of their keys, each key
once, so two dictionaries with the same content are equal.

* `get?`, `insert`, `ofList` — the later of two entries with one key wins.
* `get?_insert` — an insertion is seen at its own key and nowhere else.
* `ext_get?` — a dictionary is determined by what it holds at each key.
* `insert_comm` — insertions at different keys may come in either order.
* `ofList_entries`, `ofList_perm` — a dictionary is rebuilt from its own entries, in any order.
* `lookup_perm`, `entries_ofList_perm` — among entries with different keys, any order will do.
* `size_ofList`, `get?_ofList_of_mem` — what a list of entries makes of its keys.
* `foldl_last_write` — what is left of some writes is the last one.
-/

namespace RecordCheck

universe u v

/-- A finite map from texts, its entries in the order of their keys. -/
structure Dict (α : Type u) where
  entries : List (String × α)
  sorted : entries.Pairwise fun a b => a.1 < b.1
  deriving DecidableEq

namespace Dict

open List (lookup)

variable {α : Type u} {β : Type v}

/-! ## Entry lists -/

/-- Puts an entry in its place, over an entry with the same key. -/
def place (key : String) (x : α) : List (String × α) → List (String × α)
  | [] => [(key, x)]
  | e :: es =>
    if key < e.1 then (key, x) :: e :: es
    else if e.1 = key then (key, x) :: es
    else e :: place key x es

/-- The first entry counts if it has the key. -/
theorem lookup_cons (key : String) (e : String × α) (es : List (String × α)) :
    lookup key (e :: es) = if e.1 = key then some e.2 else lookup key es := by
  rw [List.lookup_cons]
  by_cases h : e.1 = key
  · rw [if_pos h, h, beq_self_eq_true]
  · rw [if_neg h, beq_eq_false_iff_ne.2 (Ne.symm h)]

theorem mem_place {key : String} {x : α} {e : String × α} {es : List (String × α)}
    (h : e ∈ place key x es) : e = (key, x) ∨ e ∈ es := by
  induction es with
  | nil => simpa [place] using h
  | cons d ds ih =>
    rw [place] at h
    split at h
    · simpa using h
    · split at h
      · rcases List.mem_cons.1 h with h | h
        · exact .inl h
        · exact .inr (List.mem_cons_of_mem _ h)
      · rcases List.mem_cons.1 h with h | h
        · exact .inr (h ▸ List.mem_cons_self ..)
        · rcases ih h with h | h
          · exact .inl h
          · exact .inr (List.mem_cons_of_mem _ h)

theorem pairwise_place {key : String} {x : α} {es : List (String × α)}
    (h : es.Pairwise fun a b => a.1 < b.1) :
    (place key x es).Pairwise fun a b => a.1 < b.1 := by
  induction es with
  | nil => simp [place]
  | cons d ds ih =>
    rw [place]
    have hd := List.pairwise_cons.1 h
    split
    · next hlt =>
      refine List.pairwise_cons.2 ⟨fun e he => ?_, h⟩
      rcases List.mem_cons.1 he with rfl | he
      · exact hlt
      · exact String.lt_trans hlt (hd.1 e he)
    · next hnlt =>
      split
      · next heq =>
        subst heq
        exact List.pairwise_cons.2 ⟨fun e he => hd.1 e he, hd.2⟩
      · next hne =>
        refine List.pairwise_cons.2 ⟨fun e he => ?_, ih hd.2⟩
        rcases mem_place he with rfl | he
        · exact Std.lt_of_le_of_ne (String.not_lt.1 hnlt) hne
        · exact hd.1 e he

theorem lookup_place (key other : String) (x : α) (es : List (String × α)) :
    lookup other (place key x es) = if key = other then some x else lookup other es := by
  induction es with
  | nil => rw [place, lookup_cons]
  | cons d ds ih =>
    rw [place]
    split
    · rw [lookup_cons]
    · split
      · next heq =>
        rw [lookup_cons, lookup_cons, heq]
        split <;> rfl
      · next hne =>
        rw [lookup_cons, lookup_cons, ih]
        by_cases h : d.1 = other
        · have hk : key ≠ other := fun e => hne (h.trans e.symm)
          rw [if_pos h, if_neg hk, if_pos h]
        · rw [if_neg h, if_neg h]

theorem lookup_eq_none_of_lt {key : String} {es : List (String × α)}
    (h : ∀ e ∈ es, key < e.1) : lookup key es = none := by
  induction es with
  | nil => rfl
  | cons d ds ih =>
    have hd : key < d.1 := h d (List.mem_cons_self ..)
    have hne : d.1 ≠ key := fun e => String.lt_irrefl key (by rw [e] at hd; exact hd)
    rw [lookup_cons, if_neg hne]
    exact ih fun e he => h e (List.mem_cons_of_mem _ he)

/-- Sorted entry lists that agree at every key are equal. -/
theorem eq_of_lookup_eq {es ds : List (String × α)}
    (hes : es.Pairwise fun a b => a.1 < b.1) (hds : ds.Pairwise fun a b => a.1 < b.1)
    (h : ∀ key, lookup key es = lookup key ds) : es = ds := by
  induction es generalizing ds with
  | nil =>
    cases ds with
    | nil => rfl
    | cons d ds => simpa [lookup_cons] using h d.1
  | cons e es ih =>
    cases ds with
    | nil => simpa [lookup_cons] using h e.1
    | cons d ds =>
      have he := List.pairwise_cons.1 hes
      have hd := List.pairwise_cons.1 hds
      have hkey : e.1 = d.1 := by
        rcases Decidable.em (e.1 = d.1) with hk | hk
        · exact hk
        · have h₁ : ¬ e.1 < d.1 := fun hlt => by
            have hnone : lookup e.1 (d :: ds) = none :=
              lookup_eq_none_of_lt fun x hx => by
                rcases List.mem_cons.1 hx with rfl | hx
                · exact hlt
                · exact String.lt_trans hlt (hd.1 x hx)
            have := h e.1
            rw [hnone, lookup_cons, if_pos rfl] at this
            cases this
          have hlt : d.1 < e.1 := Std.lt_of_le_of_ne (String.not_lt.1 h₁) (Ne.symm hk)
          have hnone : lookup d.1 (e :: es) = none :=
            lookup_eq_none_of_lt fun x hx => by
              rcases List.mem_cons.1 hx with rfl | hx
              · exact hlt
              · exact String.lt_trans hlt (he.1 x hx)
          have := h d.1
          rw [hnone, lookup_cons, if_pos rfl] at this
          cases this
      have hval : e.2 = d.2 := by
        have := h e.1
        rw [lookup_cons, lookup_cons, if_pos rfl, if_pos hkey.symm] at this
        exact Option.some.inj this
      have htail : es = ds := by
        refine ih he.2 hd.2 fun key => ?_
        have := h key
        rw [lookup_cons, lookup_cons, ← hkey] at this
        by_cases hk : e.1 = key
        · subst hk
          rw [lookup_eq_none_of_lt he.1, lookup_eq_none_of_lt fun x hx => hkey ▸ hd.1 x hx]
        · simpa [hk] using this
      rw [htail, show e = d from Prod.ext hkey hval]

/-! ## Operations -/

/-- The dictionary without entries. -/
def empty : Dict α :=
  ⟨[], .nil⟩

instance : EmptyCollection (Dict α) := ⟨empty⟩

instance : Inhabited (Dict α) := ⟨empty⟩

/-- The value at a key. -/
def get? (d : Dict α) (key : String) : Option α :=
  lookup key d.entries

/-- Is there an entry with this key? -/
def contains (d : Dict α) (key : String) : Bool :=
  (d.get? key).isSome

/-- The dictionary with one entry set. -/
def insert (d : Dict α) (key : String) (x : α) : Dict α :=
  ⟨place key x d.entries, pairwise_place d.sorted⟩

/-- The dictionary with entries set one after the other. -/
def insertAll (d : Dict α) (entries : List (String × α)) : Dict α :=
  entries.foldl (fun d e => d.insert e.1 e.2) d

/-- The dictionary of a list of entries, in which the later of two entries with one key wins. -/
def ofList (entries : List (String × α)) : Dict α :=
  empty.insertAll entries

/-- The keys, in order. -/
def keys (d : Dict α) : List String :=
  d.entries.map Prod.fst

/-- The number of entries. -/
def size (d : Dict α) : Nat :=
  d.entries.length

/-- Is there no entry? -/
def isEmpty (d : Dict α) : Bool :=
  d.entries.isEmpty

/-! ## Laws -/

@[simp] theorem get?_empty (key : String) : (empty : Dict α).get? key = none := rfl

theorem get?_insert (d : Dict α) (key other : String) (x : α) :
    (d.insert key x).get? other = if key = other then some x else d.get? other :=
  lookup_place key other x d.entries

theorem ext_get? {d e : Dict α} (h : ∀ key, d.get? key = e.get? key) : d = e := by
  have := eq_of_lookup_eq d.sorted e.sorted h
  cases d
  cases e
  simpa using this

theorem eq_empty_of_isEmpty {d : Dict α} (h : d.isEmpty = true) : d = empty := by
  refine ext_get? fun key => ?_
  rw [get?, List.isEmpty_iff.1 h, get?_empty, List.lookup_nil]

/-- Insertions at different keys may come in either order. -/
theorem insert_comm (d : Dict α) {key other : String} (h : key ≠ other) (x y : α) :
    (d.insert key x).insert other y = (d.insert other y).insert key x := by
  refine ext_get? fun k => ?_
  rw [get?_insert, get?_insert, get?_insert, get?_insert]
  by_cases hk : key = k
  · subst hk
    rw [if_neg h.symm, if_pos rfl, if_pos rfl]
  · rw [if_neg hk, if_neg hk]

theorem lookup_map (key : String) (f : α → β) (es : List (String × α)) :
    lookup key (es.map fun e => (e.1, f e.2)) = (lookup key es).map f := by
  induction es with
  | nil => rfl
  | cons e es ih =>
    rw [List.map_cons, lookup_cons, lookup_cons, ih]
    split <;> rfl

/-- After several insertions a key holds the last value inserted there. -/
theorem get?_insertAll (d : Dict α) (entries : List (String × α)) (key : String) :
    (d.insertAll entries).get? key = (lookup key entries.reverse).or (d.get? key) := by
  induction entries generalizing d with
  | nil => rfl
  | cons e es ih =>
    rw [insertAll, List.foldl_cons, ← insertAll, ih, List.reverse_cons, List.lookup_append,
      get?_insert, lookup_cons, List.lookup_nil, Option.or_assoc]
    split <;> rfl

/-- Of a list of entries, the last one with a key counts. -/
theorem get?_ofList (entries : List (String × α)) (key : String) :
    (ofList entries).get? key = lookup key entries.reverse := by
  rw [ofList, get?_insertAll, get?_empty, Option.or_none]

/-- In a sorted entry list the first entry with a key is also the last one. -/
theorem lookup_reverse {es : List (String × α)}
    (h : es.Pairwise fun a b => a.1 < b.1) (key : String) :
    lookup key es.reverse = lookup key es := by
  induction es with
  | nil => rfl
  | cons e es ih =>
    have he := List.pairwise_cons.1 h
    rw [List.reverse_cons, List.lookup_append, ih he.2, lookup_cons, lookup_cons, List.lookup_nil]
    by_cases hk : e.1 = key
    · subst hk
      rw [lookup_eq_none_of_lt he.1, if_pos rfl, Option.none_or]
    · rw [if_neg hk, if_neg hk, Option.or_none]

/-- What a dictionary holds comes before what was there when its entries are inserted. -/
theorem get?_insertAll_entries (d e : Dict α) (key : String) :
    (d.insertAll e.entries).get? key = (e.get? key).or (d.get? key) := by
  rw [get?_insertAll, lookup_reverse e.sorted]
  rfl

/-- A dictionary is rebuilt from its own entries. -/
theorem ofList_entries (d : Dict α) : ofList d.entries = d := by
  refine ext_get? fun key => ?_
  rw [ofList, get?_insertAll_entries, get?_empty, Option.or_none]

/-! ## Keys -/

theorem isSome_lookup_iff_mem_map {key : String} {es : List (String × α)} :
    (lookup key es).isSome ↔ key ∈ es.map Prod.fst := by
  rw [List.lookup_isSome_iff, List.mem_map]
  simp only [beq_iff_eq, @eq_comm String key]

/-- Among entries with different keys, every entry is found at its key. -/
theorem lookup_of_mem {es : List (String × α)} (h : (es.map Prod.fst).Nodup)
    {e : String × α} (he : e ∈ es) : lookup e.1 es = some e.2 := by
  induction es with
  | nil => cases he
  | cons d ds ih =>
    obtain ⟨hd, hds⟩ := List.nodup_cons.1 h
    rcases List.mem_cons.1 he with rfl | he
    · rw [lookup_cons, if_pos rfl]
    · have hne : d.1 ≠ e.1 := fun hk => hd (hk ▸ List.mem_map_of_mem he)
      rw [lookup_cons, if_neg hne, ih hds he]

theorem mem_of_lookup {key : String} {x : α} {es : List (String × α)}
    (h : lookup key es = some x) : (key, x) ∈ es := by
  obtain ⟨before, after, rfl, -⟩ := List.lookup_eq_some_iff.1 h
  exact List.mem_append_right before (List.mem_cons_self ..)

theorem lookup_eq_some_iff {es : List (String × α)} (h : (es.map Prod.fst).Nodup) {key : String}
    {x : α} : lookup key es = some x ↔ (key, x) ∈ es :=
  ⟨mem_of_lookup, lookup_of_mem h⟩

/-- Among entries with different keys, the order does not matter. -/
theorem lookup_perm {es ds : List (String × α)} (hperm : es.Perm ds)
    (h : (ds.map Prod.fst).Nodup) (key : String) : lookup key es = lookup key ds := by
  have hes : (es.map Prod.fst).Nodup := (hperm.map Prod.fst).nodup_iff.2 h
  refine Option.ext fun x => ?_
  rw [lookup_eq_some_iff hes, lookup_eq_some_iff h, hperm.mem_iff]

theorem mem_keys_iff {d : Dict α} {key : String} : key ∈ d.keys ↔ (d.get? key).isSome :=
  isSome_lookup_iff_mem_map.symm

theorem nodup_keys (d : Dict α) : d.keys.Nodup := by
  refine List.pairwise_map.2 (d.sorted.imp fun hlt heq => ?_)
  rw [heq] at hlt
  exact String.lt_irrefl _ hlt

theorem mem_keys_ofList {es : List (String × α)} {key : String} :
    key ∈ (ofList es).keys ↔ key ∈ es.map Prod.fst := by
  rw [mem_keys_iff, get?_ofList, isSome_lookup_iff_mem_map, List.map_reverse, List.mem_reverse]

/-- The size of a dictionary of entries is the number of their different keys. -/
theorem size_ofList {es : List (String × α)} {keys : List String} (hkeys : keys.Nodup)
    (h : ∀ key, key ∈ keys ↔ key ∈ es.map Prod.fst) : (ofList es).size = keys.length := by
  have hperm : (ofList es).keys.Perm keys :=
    (List.perm_ext_iff_of_nodup (nodup_keys _) hkeys).2 fun key =>
      mem_keys_ofList.trans (h key).symm
  rw [← hperm.length_eq, size, Dict.keys, List.length_map]

/-- Of entries with different keys, none is lost. -/
theorem get?_ofList_of_mem {es : List (String × α)} (h : (es.map Prod.fst).Nodup)
    {e : String × α} (he : e ∈ es) : (ofList es).get? e.1 = some e.2 := by
  rw [get?_ofList, lookup_perm es.reverse_perm h, lookup_of_mem h he]

/-- A dictionary is rebuilt from its own entries in any order. -/
theorem ofList_perm {es : List (String × α)} {d : Dict α} (h : es.Perm d.entries) :
    ofList es = d := by
  refine ext_get? fun key => ?_
  rw [get?_ofList, lookup_perm (es.reverse_perm.trans h) (nodup_keys d), get?]

/-- Entries with different keys are put in order, and nothing else happens to them. -/
theorem entries_ofList_perm {es : List (String × α)} (h : (es.map Prod.fst).Nodup) :
    (ofList es).entries.Perm es := by
  have hentries : (ofList es).entries.Nodup :=
    (List.pairwise_map.1 (nodup_keys (ofList es))).imp fun hne heq => hne (congrArg Prod.fst heq)
  have hes : es.Nodup :=
    (List.pairwise_map.1 h).imp fun hne heq => hne (congrArg Prod.fst heq)
  refine (List.perm_ext_iff_of_nodup hentries hes).2 fun e => ?_
  rw [← lookup_eq_some_iff h, ← lookup_eq_some_iff (nodup_keys (ofList es)), ← get?, get?_ofList,
    lookup_perm es.reverse_perm h]

end Dict

/-! ## Writes in order -/

/-- Let each of some steps either write a value or keep it.  What can be read after them is the
last value that was written, and otherwise the one from before. -/
theorem foldl_last_write {σ α β : Type} {step : σ → α → σ} (read : σ → Option β)
    {write : α → Option β} {steps : List α}
    (h : ∀ s, ∀ x ∈ steps, read (step s x) = (write x).or (read s)) (s : σ) :
    read (steps.foldl step s) = ((steps.filterMap write).getLast?).or (read s) := by
  induction steps generalizing s with
  | nil => rfl
  | cons x xs ih =>
    have hrest := ih (fun s y hy => h s y (List.mem_cons_of_mem _ hy)) (step s x)
    rw [List.foldl_cons, hrest, h s x (List.mem_cons_self ..)]
    cases hw : write x with
    | none => rw [List.filterMap_cons_none hw, Option.none_or]
    | some y =>
      rw [List.filterMap_cons_some hw, List.getLast?_cons]
      cases (xs.filterMap write).getLast? <;> rfl

end RecordCheck
