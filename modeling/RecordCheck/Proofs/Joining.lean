import RecordCheck.Proofs.Outcome

/-!
# Joined rule lines

A rule line may be cut at any of its commas.  Checking a field against the whole line is checking it
against the first part and, where nothing fails there, against the second.  Rules that are appended
to a line are only run when the rules before them pass, so they never change or hide a failure.

The line `-` is the one exception, as it switches checking off only when it stands alone.  In a
longer line it is a rule of this name, which nobody knows unless a custom rule has the name.

* `RuleLine.listed`, `RuleLine.rules_append` — the rules of a joined line are those of its parts.
* `Run.orElse` — a search for something and, where it finds nothing, another one.
* `RuleTable.firstFailing_append`, `Validator.checkField_append` — the check of a joined line,
  whatever custom rules do.
* `Validator.failure?_append`, `Validator.failure?_intercalate` — the failure at a joined line, when
  custom rules only test.
* `Run.validate_of_joined` — this for the checks of fields and records.
-/

namespace RecordCheck

/-! ## The rules of a joined line -/

namespace RuleLine

/-- The rules between the commas of a line, whether or not the line switches checking off. -/
def listed (line : String) : List Rule :=
  (tokens line.toList).map Rule.ofToken

theorem listed_dash : listed "-" = [⟨"-", ""⟩] := by
  decide

theorem rules_eq_listed {line : String} (h : line ≠ "-") : rules line = listed line := by
  rw [rules]
  split
  · next hskip =>
    obtain rfl : line = "" := by simpa [isSkip, h] using hskip
    rfl
  · rfl

theorem tokens_append (s t : List Char) : tokens (s ++ ',' :: t) = tokens s ++ tokens t := by
  rw [tokens, List.splitOn_append_cons_self, List.map_append, List.filter_append]
  rfl

theorem listed_append (a b : String) : listed (a ++ "," ++ b) = listed a ++ listed b := by
  have hline : (a ++ "," ++ b).toList = a.toList ++ ',' :: b.toList := by simp
  rw [listed, hline, tokens_append, List.map_append]
  rfl

theorem append_ne_dash (a b : String) : a ++ "," ++ b ≠ "-" := by
  intro h
  have hcomma : ',' ∈ (a ++ "," ++ b).toList := by simp
  rw [h] at hcomma
  exact absurd hcomma (by decide)

/-- The rules of a joined line are those listed in its parts. -/
theorem rules_append (a b : String) : rules (a ++ "," ++ b) = listed a ++ listed b := by
  rw [rules_eq_listed (append_ne_dash a b), listed_append]

/-- A joined line is `-` only when nothing was joined to it. -/
theorem mem_of_intercalate_eq_dash {pieces : List String} (h : ",".intercalate pieces = "-") :
    "-" ∈ pieces := by
  match pieces with
  | [] =>
    rw [String.intercalate_nil] at h
    exact absurd h (by decide)
  | [piece] =>
    rw [String.intercalate_singleton] at h
    rw [h, List.mem_singleton]
  | piece :: next :: rest =>
    rw [String.intercalate_cons_cons] at h
    exact absurd h (append_ne_dash _ _)

end RuleLine

/-! ## One search after another -/

/-- Runs a search and, where it finds nothing, another one. -/
def Run.orElse {α : Type} (first second : Run (Option α)) : Run (Option α) :=
  first.bind fun found =>
    match found with
    | some a => Run.pure (some a)
    | none => second

/-- The rules of two lists are tried in order, the second list only when the first one passes. -/
theorem RuleTable.firstFailing_append (t : RuleTable) (ask : View → String → String → Run Bool)
    (value : View) (rules more : List Rule) :
    t.firstFailing ask value (rules ++ more) =
      (t.firstFailing ask value rules).orElse (t.firstFailing ask value more) := by
  induction rules with
  | nil => rw [List.nil_append, firstFailing, Run.orElse, Run.pure_bind]
  | cons r rs ih =>
    rw [List.cons_append, firstFailing, firstFailing, Run.orElse, Run.bind_assoc]
    refine congrArg _ (funext fun passed => ?_)
    cases passed with
    | true => exact ih
    | false => exact (Run.pure_bind _ _).symm

namespace Validator

/-- A field with a joined line is checked against one part after the other, whatever custom rules
do. -/
theorem checkField_append (v : Validator) (ask : View → String → String → Run Bool) (f : Field)
    {a b : String} (ha : a ≠ "-") (hb : b ≠ "-") :
    v.checkField ask { f with line := a ++ "," ++ b } =
      (v.checkField ask { f with line := a }).orElse (v.checkField ask { f with line := b }) := by
  rw [checkField, RuleLine.rules_append, ← RuleLine.rules_eq_listed ha,
    ← RuleLine.rules_eq_listed hb, RuleTable.firstFailing_append, Run.orElse, Run.bind_assoc,
    checkField, Run.orElse, Run.bind_assoc]
  refine congrArg _ (funext fun failed => ?_)
  cases failed with
  | none =>
    rw [Run.pure_bind]
    rfl
  | some r =>
    rw [Run.pure_bind, Run.bind_assoc]
    rfl

end Validator

/-! ## Rules that only test -/

/-- The rule `-` fails nowhere unless a custom rule has the name, so it does not matter whether a
line `-` switches checking off. -/
theorem RuleTable.find?_listed {t : RuleTable} {line : String}
    (h : line = "-" → t.custom.get? "-" = none) (value : View) :
    ((RuleLine.listed line).find? fun r => !t.passes value r.name r.param) =
      (RuleLine.rules line).find? fun r => !t.passes value r.name r.param := by
  by_cases hline : line = "-"
  · subst hline
    have hpasses : t.passes value "-" "" = true := passes_of_unknown (h rfl) rfl value ""
    have hrules : RuleLine.rules "-" = [] := rfl
    rw [RuleLine.listed_dash, hrules, List.find?_singleton, hpasses]
    rfl
  · rw [RuleLine.rules_eq_listed hline]

namespace Validator

variable {v : Validator}

/-- The failure at a joined line is that at the first part, else that at the second. -/
theorem failure?_append (f : Field) {a b : String}
    (h : a = "-" ∨ b = "-" → v.rules.custom.get? "-" = none) :
    v.failure? { f with line := a ++ "," ++ b } =
      (v.failure? { f with line := a }).or (v.failure? { f with line := b }) := by
  rw [failure?, RuleLine.rules_append, List.find?_append,
    RuleTable.find?_listed (fun ha => h (.inl ha)), RuleTable.find?_listed (fun hb => h (.inr hb)),
    Option.map_or]
  rfl

/-- The failure at a line is the first one that a piece between its commas gives. -/
theorem failure?_intercalate (f : Field) {pieces : List String}
    (h : "-" ∈ pieces → v.rules.custom.get? "-" = none) :
    v.failure? { f with line := ",".intercalate pieces } =
      pieces.findSome? fun piece => v.failure? { f with line := piece } := by
  induction pieces with
  | nil => rfl
  | cons piece rest ih =>
    have hrest := ih fun hmem => h (List.mem_cons_of_mem _ hmem)
    rw [← List.singleton_append, List.findSome?_append, List.findSome?_singleton, ← hrest]
    cases rest with
    | nil => exact (Option.or_none).symm
    | cons next rest =>
      rw [List.singleton_append, String.intercalate_cons_cons]
      refine failure?_append f ?_
      rintro (rfl | hjoined)
      · exact h (List.mem_cons_self ..)
      · exact h (List.mem_cons_of_mem _ (RuleLine.mem_of_intercalate_eq_dash hjoined))

end Validator

/-! ## Fields and records -/

/-- **A rule line may be cut at any comma.**  The check of a field whose line is two texts joined
by a comma, neither of them `-`, is the check with the first text and, where that finds no
failure, the check with the second, whatever custom rules do.  If custom rules only test, and none
has the name `-` in case one of the texts is `-`, then the outcome with the joined line is the
failure with the first text if there is one, and else the outcome with the second.  So appending
rules to the line of a field that fails changes nothing in the outcome of the record that it
stands in.  In the same way a line may be cut at all its commas: the outcome is the first failure
that one of the pieces gives. -/
theorem Run.validate_of_joined (v : Validator) (f : Field) :
    (∀ (ask : View → String → String → Run Bool) (a b : String), a ≠ "-" → b ≠ "-" →
      v.checkField ask { f with line := a ++ "," ++ b } =
        (v.checkField ask { f with line := a }).orElse (v.checkField ask { f with line := b })) ∧
    (v.rules.OnlyTests → ∀ a b : String, (a = "-" ∨ b = "-" → v.rules.custom.get? "-" = none) →
      (∀ (ask : View → String → String → Run Bool) (w : Validator),
        ∃ first second trace more whole,
          v.checkField ask { f with line := a } w = some ⟨first, w, trace⟩ ∧
          v.checkField ask { f with line := b } w = some ⟨second, w, more⟩ ∧
          v.checkField ask { f with line := a ++ "," ++ b } w =
            some ⟨first.or second, w, whole⟩) ∧
      (∀ (depth : Nat) (record other : List Entry) (before after : List Field) (failure : Failure),
        Entry.flattenAll record = before ++ { f with line := a } :: after →
        Entry.flattenAll other = before ++ { f with line := a ++ "," ++ b } :: after →
        v.failure? { f with line := a } = some failure →
          (Run.validate depth other v).map Ending.answer =
            (Run.validate depth record v).map Ending.answer)) ∧
    (v.rules.OnlyTests → ∀ pieces : List String,
      ("-" ∈ pieces → v.rules.custom.get? "-" = none) →
      ∀ (ask : View → String → String → Run Bool) (w : Validator), ∃ trace,
        v.checkField ask { f with line := ",".intercalate pieces } w =
          some ⟨pieces.findSome? fun piece => v.failure? { f with line := piece }, w, trace⟩) := by
  refine ⟨fun ask a b ha hb => v.checkField_append ask f ha hb, ?_, ?_⟩
  · intro h a b hdash
    have hjoined := Validator.failure?_append f hdash
    refine ⟨fun ask w => ?_, ?_⟩
    · have hwhole := Validator.checkField_of_onlyTests ask h { f with line := a ++ "," ++ b } w
      rw [hjoined] at hwhole
      exact ⟨_, _, _, _, _, Validator.checkField_of_onlyTests ask h _ w,
        Validator.checkField_of_onlyTests ask h _ w, hwhole⟩
    · intro depth record other before after failure hrecord hother hfailure
      rw [hfailure, Option.some_or] at hjoined
      have hfailures : v.failures other = v.failures record := by
        simp only [Validator.failures, hrecord, hother, List.filterMap_append,
          List.filterMap_cons_some hfailure, List.filterMap_cons_some hjoined]
      rw [validate_of_onlyTests h, validate_of_onlyTests h, hfailures]
      rfl
  · intro h pieces hdash ask w
    have hwhole := Validator.checkField_of_onlyTests ask h
      { f with line := ",".intercalate pieces } w
    rw [Validator.failure?_intercalate f hdash] at hwhole
    exact ⟨_, hwhole⟩

namespace Run

/-- A code of two characters under a rule line. -/
def shortCode (line : String) : Field where
  name := "code"
  line := line
  value := .text "ab"

/-- The failure of a code that should have three characters. -/
def shortCodeFailure : Failure :=
  ⟨"code", "code", "min", "3", .text "ab", "code must be at least 3"⟩

/-- A code that is too short, under lines that are joined to one that switches checking off, to a
rule that passes, and to rules that would fail as well. -/
theorem validate_of_joined_shortCode :
    Validator.checkField ⟨.empty, .english⟩ (Run.evaluate 1)
        (shortCode ("required" ++ "," ++ "min=3")) =
      (Validator.checkField ⟨.empty, .english⟩ (Run.evaluate 1) (shortCode "required")).orElse
        (Validator.checkField ⟨.empty, .english⟩ (Run.evaluate 1) (shortCode "min=3")) ∧
    (∃ whole, Validator.checkField ⟨.empty, .english⟩ (Run.evaluate 1)
        (shortCode ("-" ++ "," ++ "min=3")) ⟨.empty, .chinese⟩ =
      some ⟨some shortCodeFailure, ⟨.empty, .chinese⟩, whole⟩) ∧
    (Run.validate 1 [.embedded [.field (shortCode ("min=3" ++ "," ++ "len=x"))]]
        ⟨.empty, .english⟩).map Ending.answer =
      (Run.validate 1 [.field (shortCode "min=3")] ⟨.empty, .english⟩).map Ending.answer ∧
    (∃ trace, Validator.checkField ⟨.empty, .english⟩ (Run.evaluate 1)
        (shortCode (",".intercalate ["-", " required ", "", "min=3", "max=1"])) ⟨.empty, .chinese⟩ =
      some ⟨some shortCodeFailure, ⟨.empty, .chinese⟩, trace⟩) := by
  obtain ⟨hrun, htests, hpieces⟩ := validate_of_joined ⟨.empty, .english⟩ (shortCode "")
  have hempty := RuleTable.onlyTests_empty
  refine ⟨hrun (Run.evaluate 1) "required" "min=3" (by decide) (by decide), ?_, ?_, ?_⟩
  · obtain ⟨first, second, _, _, whole, hfirst, hsecond, hwhole⟩ :=
      (htests hempty "-" "min=3" fun _ => rfl).1 (Run.evaluate 1) ⟨.empty, .chinese⟩
    obtain rfl : first = none := by cases hfirst; rfl
    obtain rfl : second = some shortCodeFailure := by cases hsecond; rfl
    exact ⟨whole, hwhole⟩
  · exact (htests hempty "min=3" "len=x" fun _ => rfl).2 1 _ _ [] [] shortCodeFailure rfl rfl rfl
  · exact hpieces hempty ["-", " required ", "", "min=3", "max=1"] (fun _ => rfl) (Run.evaluate 1)
      ⟨.empty, .chinese⟩

end Run

end RecordCheck
