import Mathlib.Data.List.Infix
import RecordCheck.Catalog

/-!
# Messages as simultaneous substitutions

A message is made by replacing the placeholders of a template one after the other, each time in the
whole text.  When neither the label nor the parameter holds an opening brace, and every opening brace
of the template begins a placeholder, this comes to the same as replacing all of them at once, each
where it stands: what is put in is never taken for a placeholder, and nothing else is touched.

* `Placeholder`, `Piece` — a template as characters and placeholders; a character is no opening brace.
* `BracesBeginPlaceholders` — the templates of which this is so; those of the locales are among them
  (`Catalog.bracesBeginPlaceholders_ofLocale`).
* `Piece.exists_textOf` — a template whose opening braces begin placeholders is made of pieces.
* `Piece.replaceAll_textOf` — replacing one placeholder in the text of pieces is substituting for it
  in the pieces.
* `Piece.foldl_replaceAll_textOf` — so is replacing several, one after the other.
* `Catalog.render_simultaneous` — what this means for messages.
-/

namespace RecordCheck

open Text

/-! ## Templates in pieces -/

/-- The placeholders of templates. -/
inductive Placeholder where
  | field
  | param
  | min
  | max
  deriving DecidableEq, Repr

/-- How a placeholder is written. -/
def Placeholder.text : Placeholder → List Char
  | .field => "{field}".toList
  | .param => "{param}".toList
  | .min => "{min}".toList
  | .max => "{max}".toList

/-- Every placeholder there is. -/
def Placeholder.all : List Placeholder :=
  [.field, .param, .min, .max]

theorem Placeholder.mem_all (p : Placeholder) : p ∈ all := by
  cases p <;> decide

/-- A piece of a template. -/
inductive Piece where
  /-- A character that is no opening brace. -/
  | char (c : Char) (h : c ≠ '{')
  /-- A placeholder. -/
  | hole (p : Placeholder)

namespace Piece

/-- How a piece is written. -/
def text : Piece → List Char
  | .char c _ => [c]
  | .hole p => p.text

/-- The text that pieces make up. -/
def textOf (pieces : List Piece) : List Char :=
  pieces.flatMap text

/-- What a piece becomes when some placeholders stand for texts. -/
def fill (value? : Placeholder → Option (List Char)) : Piece → List Char
  | .char c _ => [c]
  | .hole p => (value? p).getD p.text

/-- What a piece becomes when pieces are put in for one placeholder. -/
def substitute (p : Placeholder) (new : List Piece) : Piece → List Piece
  | .char c h => [.char c h]
  | .hole q => if q = p then new else [.hole q]

/-- A text without opening braces as pieces. -/
def plain (s : List Char) (h : '{' ∉ s) : List Piece :=
  s.attach.map fun c => .char c.1 fun hc => h (hc ▸ c.2)

theorem textOf_append (ps qs : List Piece) : textOf (ps ++ qs) = textOf ps ++ textOf qs :=
  List.flatMap_append

theorem textOf_plain (s : List Char) (h : '{' ∉ s) : textOf (plain s h) = s := by
  rw [textOf, plain, List.flatMap_map]
  simp [text]

/-- There is nothing to fill in a plain text. -/
theorem flatMap_fill_plain (s : List Char) (h : '{' ∉ s)
    (value? : Placeholder → Option (List Char)) : (plain s h).flatMap (fill value?) = s := by
  rw [plain, List.flatMap_map]
  simp [fill]

end Piece

/-! ## Braces -/

namespace Placeholder

theorem text_eq_cons (p : Placeholder) : p.text = '{' :: p.text.tail := by
  cases p <;> rfl

theorem brace_not_mem_tail_text (p : Placeholder) : '{' ∉ p.text.tail := by
  cases p <;> decide

/-- No placeholder is the beginning of another one. -/
theorem eq_of_prefix_text {p q : Placeholder} (h : p.text <+: q.text) : p = q := by
  have hall : ∀ p ∈ all, ∀ q ∈ all, p.text <+: q.text → p = q := by decide
  exact hall p p.mem_all q q.mem_all h

theorem not_prefix_text_append {p q : Placeholder} (h : p ≠ q) (rest : List Char) :
    ¬ p.text <+: q.text ++ rest := by
  intro hprefix
  obtain hpq | hqp := List.prefix_or_prefix_of_prefix hprefix (List.prefix_append q.text rest)
  · exact h (eq_of_prefix_text hpq)
  · exact h (eq_of_prefix_text hqp).symm

end Placeholder

/-- Every opening brace of a template begins a placeholder. -/
def BracesBeginPlaceholders (template : List Char) : Prop :=
  ∀ rest, '{' :: rest <:+ template → ∃ p : Placeholder, p.text <+: '{' :: rest

theorem bracesBeginPlaceholders_iff {template : List Char} :
    BracesBeginPlaceholders template ↔
      ∀ s ∈ template.tails, s.head? = some '{' → ∃ p ∈ Placeholder.all, p.text <+: s := by
  constructor
  · intro h s hs hhead
    obtain ⟨rest, rfl⟩ := List.head?_eq_some_iff.1 hhead
    obtain ⟨p, hp⟩ := h rest ((List.mem_tails _ _).1 hs)
    exact ⟨p, p.mem_all, hp⟩
  · intro h rest hrest
    obtain ⟨p, -, hp⟩ := h _ ((List.mem_tails _ _).2 hrest) rfl
    exact ⟨p, hp⟩

instance (template : List Char) : Decidable (BracesBeginPlaceholders template) :=
  decidable_of_iff _ bracesBeginPlaceholders_iff.symm

theorem BracesBeginPlaceholders.of_suffix {s t : List Char} (h : BracesBeginPlaceholders t)
    (hs : s <:+ t) : BracesBeginPlaceholders s :=
  fun rest hrest => h rest (hrest.trans hs)

namespace Piece

/-- A template whose opening braces begin placeholders is made of pieces. -/
theorem exists_textOf {template : List Char} (h : BracesBeginPlaceholders template) :
    ∃ pieces, textOf pieces = template := by
  -- a placeholder takes several characters at once, so the induction is on the length
  induction hn : template.length using Nat.strong_induction_on generalizing template with
  | _ n ih =>
    cases template with
    | nil => exact ⟨[], rfl⟩
    | cons c cs =>
      rw [List.length_cons] at hn
      by_cases hc : c = '{'
      · subst hc
        obtain ⟨p, rest, hp⟩ := h cs List.suffix_rfl
        have hlength : rest.length < n := by
          have hsum := congrArg List.length hp
          rw [List.length_append, p.text_eq_cons, List.length_cons, List.length_cons] at hsum
          omega
        obtain ⟨pieces, rfl⟩ := ih _ hlength (h.of_suffix ⟨p.text, hp⟩) rfl
        exact ⟨.hole p :: pieces, hp⟩
      · obtain ⟨pieces, rfl⟩ := ih cs.length (by omega) (h.of_suffix (List.suffix_cons c cs)) rfl
        exact ⟨.char c hc :: pieces, rfl⟩

/-! ## Replacing placeholders -/

/-- Replacing a placeholder in the text of pieces is substituting for it in the pieces. -/
theorem replaceAll_textOf (p : Placeholder) (new pieces : List Piece) :
    replaceAll p.text (textOf new) (textOf pieces) =
      textOf (pieces.flatMap (substitute p new)) := by
  induction pieces with
  | nil => exact replaceAll_nil _ _
  | cons piece pieces ih =>
    have hcons : textOf (piece :: pieces) = piece.text ++ textOf pieces := List.flatMap_cons
    rw [hcons, List.flatMap_cons, textOf_append, ← ih]
    cases piece with
    | char c hc =>
      have hmem : '{' ∉ [c] := by simpa using Ne.symm hc
      rw [text, p.text_eq_cons, replaceAll_append_of_not_mem hmem]
      rfl
    | hole q =>
      by_cases hq : q = p
      · subst hq
        have hne : q.text ≠ [] := by
          rw [q.text_eq_cons]
          exact List.cons_ne_nil _ _
        rw [text, replaceAll_append_self hne, substitute, if_pos rfl]
      · have hprefix := Placeholder.not_prefix_text_append (Ne.symm hq) (textOf pieces)
        rw [q.text_eq_cons, List.cons_append] at hprefix
        rw [text, q.text_eq_cons, List.cons_append, replaceAll_cons_of_not_prefix hprefix,
          p.text_eq_cons, replaceAll_append_of_not_mem q.brace_not_mem_tail_text,
          ← p.text_eq_cons, ← List.cons_append, ← q.text_eq_cons, substitute, if_neg hq]
        simp [textOf, text]

/-- Filling in what was substituted for a placeholder is filling in with this placeholder too. -/
theorem flatMap_fill_substitute (p : Placeholder) {s : List Char} (h : '{' ∉ s)
    (value? : Placeholder → Option (List Char)) (piece : Piece) :
    (substitute p (plain s h) piece).flatMap (fill value?) =
      fill (fun q => if q = p then some s else value? q) piece := by
  cases piece with
  | char c hc => rfl
  | hole q =>
    by_cases hq : q = p
    · rw [substitute, if_pos hq, flatMap_fill_plain, fill, if_pos hq, Option.getD_some]
    · rw [substitute, if_neg hq, fill, if_neg hq, List.flatMap_singleton, fill]

/-- Replacing several placeholders in the text of pieces, one after the other, is filling them in all
at once. -/
theorem foldl_replaceAll_textOf {values : List (Placeholder × List Char)}
    (h : ∀ v ∈ values, '{' ∉ v.2) (pieces : List Piece) :
    values.foldl (fun s v => replaceAll v.1.text v.2 s) (textOf pieces) =
      pieces.flatMap (fill fun p => values.lookup p) := by
  induction values generalizing pieces with
  | nil =>
    have hfill : fill (fun p => List.lookup p ([] : List (Placeholder × List Char))) = text := by
      funext piece
      cases piece <;> rfl
    rw [List.foldl_nil, textOf, hfill]
  | cons v vs ih =>
    have hv : '{' ∉ v.2 := h v (List.mem_cons_self ..)
    have hstep := replaceAll_textOf v.1 (plain v.2 hv) pieces
    rw [textOf_plain] at hstep
    rw [List.foldl_cons, hstep, ih fun w hw => h w (List.mem_cons_of_mem _ hw), List.flatMap_assoc]
    refine congrArg pieces.flatMap (funext fun piece => ?_)
    rw [flatMap_fill_substitute]
    refine congrArg (fill · piece) (funext fun q => ?_)
    rw [List.lookup_cons]
    by_cases hq : q = v.1
    · rw [if_pos hq, beq_iff_eq.2 hq]
    · rw [if_neg hq, beq_eq_false_iff_ne.2 hq]

end Piece

/-! ## Messages -/

/-- What a placeholder stands for in a message: the label, the parameter, and for `range` the two sides
of a parameter with exactly one hyphen. -/
def Placeholder.value? (rule label param : String) : Placeholder → Option (List Char)
  | .field => some label.toList
  | .param => some param.toList
  | .min =>
    if rule = "range" ∧ param.toList.count '-' = 1 then
      some (param.toList.takeWhile (· != '-'))
    else none
  | .max =>
    if rule = "range" ∧ param.toList.count '-' = 1 then
      some (param.toList.dropWhile (· != '-')).tail
    else none

namespace Catalog

/-- What the placeholders stand for, in the order in which they are replaced. -/
def values (rule label param : String) : List (Placeholder × List Char) :=
  [(.field, label.toList), (.param, param.toList)] ++
    if rule = "range" ∧ param.toList.count '-' = 1 then
      [(.min, param.toList.takeWhile (· != '-')), (.max, (param.toList.dropWhile (· != '-')).tail)]
    else []

theorem lookup_values (rule label param : String) (p : Placeholder) :
    (values rule label param).lookup p = p.value? rule label param := by
  by_cases h : rule = "range" ∧ param.toList.count '-' = 1
  · rw [values, if_pos h]
    cases p with
    | field | param => rfl
    | min | max => exact (if_pos h).symm
  · rw [values, if_neg h]
    cases p with
    | field | param => rfl
    | min | max => exact (if_neg h).symm

theorem brace_not_mem_values {rule label param : String}
    (hlabel : '{' ∉ label.toList) (hparam : '{' ∉ param.toList) :
    ∀ v ∈ values rule label param, '{' ∉ v.2 := by
  have hmin : '{' ∉ param.toList.takeWhile (· != '-') :=
    fun hmem => hparam ((List.takeWhile_sublist _).subset hmem)
  have hmax : '{' ∉ (param.toList.dropWhile (· != '-')).tail :=
    fun hmem => hparam ((List.dropWhile_sublist _).subset (List.mem_of_mem_tail hmem))
  rw [values]
  split
  · simp only [List.cons_append, List.nil_append, List.forall_mem_cons]
    exact ⟨hlabel, hparam, hmin, hmax, List.forall_mem_nil _⟩
  · simp only [List.append_nil, List.forall_mem_cons]
    exact ⟨hlabel, hparam, List.forall_mem_nil _⟩

/-- A message is made by replacing the placeholders one after the other. -/
theorem fill_eq_foldl (template : List Char) (rule label param : String) :
    fill template rule.toList label.toList param.toList =
      (values rule label param).foldl (fun s v => replaceAll v.1.text v.2 s) template := by
  by_cases hrange : rule = "range"
  · subst hrange
    by_cases hcount : param.toList.count '-' = 1
    · rw [fill, if_pos rfl, halves_of_count hcount, values, if_pos ⟨rfl, hcount⟩]
      rfl
    · rw [fill, if_pos rfl, halves_eq_none hcount, values, if_neg fun h => hcount h.2]
      rfl
  · have hchars : rule.toList ≠ "range".toList := mt String.toList_inj.1 hrange
    rw [fill, if_neg hchars, values, if_neg fun h => hrange h.1]
    rfl

/-- In the templates of a locale every opening brace begins a placeholder. -/
theorem bracesBeginPlaceholders_ofLocale (l : Locale) (rule : String) :
    BracesBeginPlaceholders ((ofLocale l).templateFor rule).toList := by
  have htemplates : ∀ t ∈ l.templates, BracesBeginPlaceholders t.2.toList := by
    -- The characters of a literal are at hand as `String.ofList`; decoding the bytes would take long.
    cases l
    all_goals
      simp only [Locale.templates, Locale.englishTemplates, Locale.chineseTemplates,
        List.forall_mem_cons]
      repeat rw [String.toList_ofList]
      decide +kernel
  have hfallback : BracesBeginPlaceholders l.fallback.toList := by
    cases l
    all_goals
      rw [Locale.fallback, String.toList_ofList]
      decide +kernel
  rw [templateFor, get?_ofLocale]
  cases Builtin.ofName? rule with
  | none => exact hfallback
  | some b => exact htemplates _ (l.mem_templates b)

/-- **A message is its template with every placeholder replaced in place.**  When neither the label nor
the parameter holds an opening brace and every opening brace of the template that applies begins a
placeholder, the template is made of pieces; and however it is, the message is these pieces one after
the other, each placeholder that stands for a text giving this text, and all else staying as
written. -/
theorem render_simultaneous (c : Catalog) (rule label param : String)
    (hlabel : '{' ∉ label.toList) (hparam : '{' ∉ param.toList)
    (htemplate : BracesBeginPlaceholders (c.templateFor rule).toList) :
    (∃ pieces, Piece.textOf pieces = (c.templateFor rule).toList) ∧
      ∀ pieces, Piece.textOf pieces = (c.templateFor rule).toList →
        (c.render rule label param).toList =
          pieces.flatMap (Piece.fill (Placeholder.value? rule label param)) := by
  refine ⟨Piece.exists_textOf htemplate, fun pieces hpieces => ?_⟩
  have hvalue : (fun p => (values rule label param).lookup p) =
      Placeholder.value? rule label param := funext (lookup_values rule label param)
  rw [render, String.toList_ofList, fill_eq_foldl, ← hpieces,
    Piece.foldl_replaceAll_textOf (brace_not_mem_values hlabel hparam), hvalue]

/-- The English message for `range`, with a parameter that has two sides and with one that has not. -/
theorem render_simultaneous_range :
    (english.render "range" "age" "18-65").toList = "age must be between 18 and 65".toList ∧
    (english.render "range" "age" "18").toList = "age must be between {min} and {max}".toList := by
  have hpieces : Piece.textOf (.hole .field :: (Piece.plain " must be between ".toList (by decide) ++
      .hole .min :: (Piece.plain " and ".toList (by decide) ++ [.hole .max]))) =
      (english.templateFor "range").toList := by decide
  have hrender (param : String) (hparam : '{' ∉ param.toList) :=
    (render_simultaneous english "range" "age" param (by decide) hparam
      (bracesBeginPlaceholders_ofLocale .english "range")).2 _ hpieces
  exact ⟨(hrender "18-65" (by decide)).trans (by decide), (hrender "18" (by decide)).trans (by decide)⟩

end Catalog

end RecordCheck
