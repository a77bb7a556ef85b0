import RecordCheck.RuleLine

/-!
# Rule lines: reading undoes writing

A list of rules is written as a line by joining the texts of its entries with commas.

* `Rule.IsEntry` — a rule that can be written as an entry: it holds no comma, no `=` in its name,
  and its text survives trimming.
* `RuleLine.rules_intercalate_text` — reading the line gives the rules back.  The list of the
  single rule `-` is the exception: its line switches checking off.
* `Rule.ofToken_text` — reading the text of one rule gives the rule back, for every rule without
  `=` in its name.
* `RuleLine.rules_write_read` — both directions together.
-/

namespace RecordCheck

/-! ## Entries -/

namespace Rule

/-- A rule that can be written as an entry of a rule line. -/
structure IsEntry (r : Rule) : Prop where
  comma_not_mem_name : ',' ∉ r.name.toList
  equals_not_mem_name : '=' ∉ r.name.toList
  comma_not_mem_param : ',' ∉ r.param.toList
  text_ne_empty : r.text ≠ ""
  first_not_blank : ∀ c ∈ r.text.toList.head?, Text.isBlank c = false
  last_not_blank : ∀ c ∈ r.text.toList.getLast?, Text.isBlank c = false

/-- Reading the text of a rule gives the rule back. -/
theorem ofToken_text {r : Rule} (h : '=' ∉ r.name.toList) : ofToken r.text.toList = r := by
  obtain ⟨name, param⟩ := r
  by_cases hp : param.isEmpty
  · have hparam : param = "" := by simpa using hp
    subst hparam
    simp [text, ofToken, Text.cutAt_of_not_mem h]
  · have htext : (text ⟨name, param⟩).toList = name.toList ++ '=' :: param.toList := by
      simp [text, hp]
    rw [htext]
    simp [ofToken, Text.cutAt_append h]

theorem comma_not_mem_text {r : Rule} (hn : ',' ∉ r.name.toList) (hp : ',' ∉ r.param.toList) :
    ',' ∉ r.text.toList := by
  unfold text
  split
  · exact hn
  · simp [hn, hp]

/-- The name of an entry that was read holds no `=`. -/
theorem equals_not_mem_ofToken_name (token : List Char) : '=' ∉ (ofToken token).name.toList := by
  simpa [ofToken] using Text.sep_not_mem_cutAt '=' token

/-- An entry is read without adding a character. -/
theorem mem_token_of_mem_ofToken {token : List Char} {c : Char}
    (h : c ∈ (ofToken token).name.toList ∨ c ∈ (ofToken token).param.toList) : c ∈ token := by
  rw [← Text.append_cutAt '=' token, List.mem_append]
  rcases h with h | h
  · exact .inl (by simpa [ofToken] using h)
  · refine .inr ?_
    cases hcut : (Text.cutAt '=' token).2 with
    | none => simp [ofToken, hcut] at h
    | some rest => simpa [hcut] using .inr (by simpa [ofToken, hcut] using h)

end Rule

namespace RuleLine

/-! ## Writing, then reading -/

/-- The entries of a written line are the texts that were written. -/
theorem splitOn_intercalate_text {rs : List Rule} (hne : rs ≠ [])
    (h : ∀ r ∈ rs, r.IsEntry) :
    (",".intercalate (rs.map Rule.text)).toList.splitOn ',' =
      rs.map fun r => r.text.toList := by
  have hcomma : ",".toList = [','] := rfl
  rw [String.toList_intercalate, List.map_map, hcomma, List.splitOn_intercalate]
  · rfl
  · intro piece hpiece
    obtain ⟨r, hr, rfl⟩ := List.mem_map.1 hpiece
    exact Rule.comma_not_mem_text (h r hr).comma_not_mem_name (h r hr).comma_not_mem_param
  · simpa using hne

/-- Only the single rule `-` writes a line that switches checking off. -/
theorem isSkip_intercalate_text {rs : List Rule} (hne : rs ≠ []) (h : ∀ r ∈ rs, r.IsEntry)
    (hdash : rs ≠ [⟨"-", ""⟩]) : isSkip (",".intercalate (rs.map Rule.text)) = false := by
  have hsplit := splitOn_intercalate_text hne h
  rw [isSkip, Bool.or_eq_false_iff]
  constructor
  · -- an empty line would be split into one empty entry
    refine beq_false_of_ne fun hline => ?_
    rw [hline] at hsplit
    obtain ⟨r, rest, rfl⟩ := List.exists_cons_of_ne_nil hne
    have htext : r.text.toList = [] := by
      simpa using (List.cons.inj hsplit).1.symm
    exact (h r (List.mem_cons_self ..)).text_ne_empty (by simpa using htext)
  · -- a line `-` is a single entry, and reading that entry names the rule
    refine beq_false_of_ne fun hline => ?_
    rw [hline] at hsplit
    obtain ⟨r, rest, rfl⟩ := List.exists_cons_of_ne_nil hne
    have halone : "-".toList.splitOn ',' = [['-']] := List.splitOn_eq_singleton (by decide)
    have hlist : ['-'] = r.text.toList ∧ rest = [] := by
      simpa using halone.symm.trans hsplit
    have hread := Rule.ofToken_text (h r (List.mem_cons_self ..)).equals_not_mem_name
    rw [← hlist.1] at hread
    exact hdash (by rw [hlist.2, ← hread]; rfl)

theorem tokens_intercalate_text {rs : List Rule} (hne : rs ≠ []) (h : ∀ r ∈ rs, r.IsEntry) :
    tokens (",".intercalate (rs.map Rule.text)).toList = rs.map fun r => r.text.toList := by
  rw [tokens, splitOn_intercalate_text hne h]
  have htrim : (rs.map fun r => r.text.toList).map Text.trim = rs.map fun r => r.text.toList := by
    rw [List.map_map]
    refine List.map_congr_left fun r hr => ?_
    exact Text.trim_eq_self (h r hr).first_not_blank (h r hr).last_not_blank
  rw [htrim, List.filter_eq_self]
  intro token htoken
  obtain ⟨r, hr, rfl⟩ := List.mem_map.1 htoken
  simpa using (h r hr).text_ne_empty

/-- Reading a written line gives the rules back. -/
theorem rules_intercalate_text {rs : List Rule} (h : ∀ r ∈ rs, r.IsEntry)
    (hdash : rs ≠ [⟨"-", ""⟩]) : rules (",".intercalate (rs.map Rule.text)) = rs := by
  by_cases hne : rs = []
  · subst hne
    simp [rules, isSkip]
  · rw [rules, isSkip_intercalate_text hne h hdash, if_neg Bool.false_ne_true,
      tokens_intercalate_text hne h]
    calc (rs.map fun r => r.text.toList).map Rule.ofToken
        = rs.map fun r => Rule.ofToken r.text.toList := List.map_map
      _ = rs.map id :=
        List.map_congr_left fun r hr => Rule.ofToken_text (h r hr).equals_not_mem_name
      _ = rs := List.map_id rs

/-! ## Reading, then writing -/

/-- A rule of a line is read from a token without commas. -/
theorem exists_token_of_mem_rules {line : String} {r : Rule} (h : r ∈ rules line) :
    ∃ token, ',' ∉ token ∧ r = Rule.ofToken token := by
  rw [rules] at h
  split at h
  · exact absurd h (List.not_mem_nil)
  · obtain ⟨token, htoken, rfl⟩ := List.mem_map.1 h
    obtain ⟨piece, hpiece, rfl⟩ := List.mem_map.1 (List.mem_filter.1 htoken).1
    exact ⟨Text.trim piece,
      fun hc => Text.sep_not_mem_of_mem_splitOn hpiece (Text.mem_of_mem_trim hc), rfl⟩

/-- **Reading and writing rule lines.**  The texts of rules that can be written as entries, joined
by commas, are read as these rules, unless they are the single rule `-`.  Every rule read from a
line holds no comma, has no `=` in its name, and is read again from its own text. -/
theorem rules_write_read :
    (∀ rs : List Rule, (∀ r ∈ rs, r.IsEntry) → rs ≠ [⟨"-", ""⟩] →
      rules (",".intercalate (rs.map Rule.text)) = rs) ∧
    (∀ line : String, ∀ r ∈ rules line,
      ',' ∉ r.name.toList ∧ '=' ∉ r.name.toList ∧ ',' ∉ r.param.toList ∧
        Rule.ofToken r.text.toList = r) := by
  refine ⟨fun rs h hdash => rules_intercalate_text h hdash, fun line r hr => ?_⟩
  obtain ⟨token, hcomma, rfl⟩ := exists_token_of_mem_rules hr
  have hequals := Rule.equals_not_mem_ofToken_name token
  exact ⟨fun hc => hcomma (Rule.mem_token_of_mem_ofToken (.inl hc)), hequals,
    fun hc => hcomma (Rule.mem_token_of_mem_ofToken (.inr hc)), Rule.ofToken_text hequals⟩

/-- The two directions at a line whose first entry is `-` and whose second has blanks around
its `=`. -/
theorem rules_write_read_dash :
    rules (",".intercalate ([⟨"-", ""⟩, ⟨"min ", " 3=4"⟩].map Rule.text)) =
        [⟨"-", ""⟩, ⟨"min ", " 3=4"⟩] ∧
      Rule.ofToken (Rule.text ⟨"min ", " 3=4"⟩).toList = ⟨"min ", " 3=4"⟩ := by
  have hdash : Rule.IsEntry ⟨"-", ""⟩ :=
    ⟨by decide, by decide, by decide, by decide, by rintro c ⟨⟩; decide, by rintro c ⟨⟩; decide⟩
  have hmin : Rule.IsEntry ⟨"min ", " 3=4"⟩ :=
    ⟨by decide, by decide, by decide, by decide, by rintro c ⟨⟩; decide, by rintro c ⟨⟩; decide⟩
  have hread := rules_write_read.1 [⟨"-", ""⟩, ⟨"min ", " 3=4"⟩]
    (by simp [hdash, hmin]) (by decide)
  have hmem : (⟨"min ", " 3=4"⟩ : Rule) ∈
      rules (",".intercalate ([⟨"-", ""⟩, ⟨"min ", " 3=4"⟩].map Rule.text)) := by
    rw [hread]
    simp
  exact ⟨hread, (rules_write_read.2 _ _ hmem).2.2.2⟩

end RuleLine

end RecordCheck
