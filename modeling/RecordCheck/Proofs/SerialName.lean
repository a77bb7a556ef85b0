import RecordCheck.Attribute

/-!
# The serialization name of a field

The items of the `serde` attributes of a field are read for one thing only, the name under which
the field is serialized.  Here the items are a grammar, and the names that they say are part of
it: an item may rename the field on both sides or on each side on its own; any other item stands
alone, is set to an expression, or has arguments in parentheses.

    rename = "id", default = "Vec::new", skip_serializing_if = "x", flatten,
    rename(serialize = "id", deserialize = "key"), bound(serialize = "T: Ord"),

* `Token.IsPath`, `Token.IsExpression`, `Token.Listed` — the parts of the grammar.  An expression
  is a literal, a path, or what brackets, calls, indexes, members and operators make of others.
* `Attribute.IsItem`, `Attribute.Renames`, `Attribute.RenamesAll` — the names that an item, the
  arguments of an attribute, and a list of attributes say, in order.
* `Token.skipExpression?_append` — an expression is skipped up to the comma after it, and no
  further.
* `Attribute.readItems_of_listed` — reading does not stop before the last item.
* `Attribute.serialName_of_renames` — the last name that is said is the one that counts.
-/

namespace RecordCheck

namespace Token

/-! ## Ends of items -/

/-- An item ends here: nothing follows, or a comma. -/
inductive AtComma : List Token → Prop where
  | nil : AtComma []
  | comma (joined : Bool) (ts : List Token) : AtComma (.mark ',' joined :: ts)

/-! ## Paths -/

/-- Words with double colons between them. -/
inductive AreSegments : List Token → List String → Prop where
  | last (name : String) : AreSegments [.word name] [name]
  | cons (name : String) (joined : Bool) {ts : List Token} {path : List String}
      (h : AreSegments ts path) :
      AreSegments (.word name :: .mark ':' true :: .mark ':' joined :: ts) (name :: path)

/-- A path, whose first word is empty if it begins with a double colon. -/
inductive IsPath : List Token → List String → Prop where
  | plain {ts : List Token} {path : List String} (h : AreSegments ts path) : IsPath ts path
  | rooted (joined : Bool) {ts : List Token} {path : List String} (h : AreSegments ts path) :
      IsPath (.mark ':' true :: .mark ':' joined :: ts) ("" :: path)

/-! ## Expressions -/

/-- May a word stand in the path of a value? -/
def IsPathWord (w : String) : Prop :=
  w ∈ pathWords ∨ isKeyword w = false

/-- The marks in front of an operand. -/
def frontMarks : List Char :=
  ['-', '!', '*', '&']

/-- The marks between two operands, of those that may follow one another in any order. -/
def middleMarks : List Char :=
  ['+', '-', '*', '/', '%', '^', '&', '|']

mutual

/-- An expression that an item may be set to. -/
inductive IsExpression : List Token → Prop where
  | text (source value : String) : IsExpression [.text source value]
  | literal (source : String) : IsExpression [.literal source]
  | truth {w : String} (h : w = "true" ∨ w = "false") : IsExpression [.word w]
  | path {ts : List Token} {path : List String} (h : IsPath ts path)
      (hwords : ∀ w ∈ path, IsPathWord w) : IsExpression ts
  | bang {ts : List Token} {path : List String} (h : IsPath ts path)
      (hwords : ∀ w ∈ path, IsPathWord w) (b : Bracket) (inner : List Token) :
      IsExpression (ts ++ [.mark '!' false, .group b inner])
  | enclosed {b : Bracket} (hb : b ≠ .curly) {inner : List Token} (h : AreExpressions inner) :
      IsExpression [.group b inner]
  | call {ts inner : List Token} (h : IsExpression ts) (hinner : AreExpressions inner) :
      IsExpression (ts ++ [.group .round inner])
  | index {ts inner : List Token} (h : IsExpression ts) (hinner : IsExpression inner) :
      IsExpression (ts ++ [.group .square inner])
  | member {ts : List Token} (h : IsExpression ts) (name : String) :
      IsExpression (ts ++ [.mark '.' false, .word name])
  | front {c : Char} (hc : c ∈ frontMarks) {ts : List Token} (h : IsExpression ts) :
      IsExpression (.mark c false :: ts)
  | middle {ts us : List Token} (h : IsExpression ts) {c : Char} (hc : c ∈ middleMarks)
      (hus : IsExpression us) : IsExpression (ts ++ .mark c false :: us)

/-- Expressions with commas between them and perhaps one after the last. -/
inductive AreExpressions : List Token → Prop where
  | nil : AreExpressions []
  | last {ts : List Token} (h : IsExpression ts) : AreExpressions ts
  | cons {ts us : List Token} (h : IsExpression ts) (joined : Bool) (hus : AreExpressions us) :
      AreExpressions (ts ++ .mark ',' joined :: us)

end

/-! ## Skipping expressions -/

theorem contains_ofList_eq_false {signs : List String} {P : List Char → Prop}
    (hall : ∀ s ∈ signs, ¬ P s.toList) {cs : List Char} (h : P cs) :
    signs.contains (String.ofList cs) = false := by
  rw [← Bool.not_eq_true, List.contains_iff_mem]
  intro hmem
  refine hall _ hmem ?_
  rwa [String.toList_ofList]

/-- A comma is a part of its own, since no operator of several marks has a comma in it. -/
theorem part?_comma (joined : Bool) (ts : List Token) :
    part? (.mark ',' joined :: ts) = some (.sign ",", ts) := by
  match joined, ts with
  | false, ts => cases ts <;> rfl
  | true, [] | true, .word _ :: _ | true, .lifetime _ :: _ | true, .text _ _ :: _
  | true, .literal _ :: _ | true, .group _ _ :: _ => rfl
  | true, .mark b joined :: ts =>
    have hb : doubleSigns.contains (String.ofList [',', b]) = false :=
      contains_ofList_eq_false (P := (',' ∈ ·)) (by decide) (List.mem_cons_self ..)
    have hc (c : Char) : tripleSigns.contains (String.ofList [',', b, c]) = false :=
      contains_ofList_eq_false (P := (',' ∈ ·)) (by decide) (List.mem_cons_self ..)
    simp only [part?, hb, hc]
    split
    · rfl
    · rfl

/-- A double colon is a part, since no operator of three marks begins with one. -/
theorem part?_colons (joined : Bool) (ts : List Token) :
    part? (.mark ':' true :: .mark ':' joined :: ts) = some (.sign "::", ts) := by
  have hc (c : Char) : tripleSigns.contains (String.ofList [':', ':', c]) = false :=
    contains_ofList_eq_false (P := ([':', ':'] <+: ·)) (by decide)
      (List.prefix_append [':', ':'] [c])
  simp only [part?, hc]
  split
  · rfl
  · rfl

theorem skipFrom?_nil {e : Expectation} (h : e.mayEnd = true) : skipFrom? e [] = some [] := by
  rw [skipFrom?]
  split
  · exact if_pos h
  · next hp => cases hp

/-- What is skipped, given the next part. -/
theorem skipFrom?_of_part? {ts r : List Token} {p : ExpressionPart} (hp : part? ts = some (p, r))
    (e : Expectation) :
    skipFrom? e ts =
      match Progress.ofPart e p with
      | .next e' => skipFrom? e' r
      | .arguments e' => (skipArguments? 1 r).bind (skipFrom? e')
      | .parameters => (skipParameters? r).bind (skipFrom? .operand)
      | .stop => some ts
      | .refuse => none := by
  rw [skipFrom?]
  split
  · next hnone => rw [hp] at hnone; cases hnone
  · next q r' hq =>
    rw [hp] at hq
    cases hq
    cases Progress.ofPart e p with
    | next | stop | refuse => rfl
    | arguments | parameters =>
      dsimp only
      split
      · next ha => rw [ha]; rfl
      · next ha => rw [ha]; rfl

/-- An expression ends at a part that stops it. -/
theorem skipFrom?_of_stop {e : Expectation} {ts r : List Token} {p : ExpressionPart}
    (hp : part? ts = some (p, r)) (h : Progress.ofPart e p = .stop) :
    skipFrom? e ts = some ts := by
  rw [skipFrom?_of_part? hp, h]

/-- An expression goes on after a part that continues it. -/
theorem skipFrom?_of_next {e e' : Expectation} {ts r : List Token} {p : ExpressionPart}
    (hp : part? ts = some (p, r)) (h : Progress.ofPart e p = .next e') :
    skipFrom? e ts = skipFrom? e' r := by
  rw [skipFrom?_of_part? hp, h]

/-- Is an operand expected, at the beginning or after an operator? -/
def Expectation.WantsOperand (e : Expectation) : Prop :=
  e = .operand ∨ e = .referent

/-- Has an operand been read? -/
def Expectation.HasOperand (e : Expectation) : Prop :=
  e = .afterPath ∨ e = .afterValue

/-- A word of a path is read as an operand. -/
theorem Progress.ofPart_pathWord {e : Expectation} (he : e.WantsOperand) {w : String}
    (hw : IsPathWord w) : Progress.ofPart e (.word w) = .next .afterPath := by
  have hword : Progress.ofOperand (.word w) = .next .afterPath := by
    refine if_pos ?_
    simpa [IsPathWord] using hw
  have hmut : w ≠ "mut" := by
    rintro rfl
    exact absurd hw (by simp [IsPathWord]; decide)
  obtain rfl | rfl := he
  · exact hword
  · simpa [Progress.ofPart, hmut] using hword

/-- After a mark in front of an operand the operand is still expected. -/
theorem Progress.ofPart_frontMark {e : Expectation} (he : e.WantsOperand) {c : Char}
    (hc : c ∈ frontMarks) :
    ∃ e' : Expectation, e'.WantsOperand ∧ Progress.ofPart e (.sign c.toString) = .next e' := by
  simp only [frontMarks, List.mem_cons, List.not_mem_nil, or_false] at hc
  obtain rfl | rfl | rfl | rfl := hc
  case inr.inr.inr =>
    exact ⟨.referent, .inr rfl, by obtain rfl | rfl := he <;> rfl⟩
  all_goals exact ⟨.operand, .inl rfl, by obtain rfl | rfl := he <;> rfl⟩

/-- After a mark between two operands the second one is expected. -/
theorem Progress.ofPart_middleMark {e : Expectation} (he : e.HasOperand) {c : Char}
    (hc : c ∈ middleMarks) : Progress.ofPart e (.sign c.toString) = .next .operand := by
  simp only [middleMarks, List.mem_cons, List.not_mem_nil, or_false] at hc
  obtain rfl | rfl | rfl | rfl | rfl | rfl | rfl | rfl := hc <;> obtain rfl | rfl := he <;> rfl

theorem skipFrom?_segments {ts : List Token} {path : List String} (h : AreSegments ts path)
    (rest : List Token) : skipFrom? .segment (ts ++ rest) = skipFrom? .afterPath rest := by
  induction h with
  | last name => exact skipFrom?_of_next rfl rfl
  | @cons name joined ts _ _ ih =>
    calc skipFrom? .segment (.word name :: .mark ':' true :: .mark ':' joined :: (ts ++ rest))
      _ = skipFrom? .afterPath (.mark ':' true :: .mark ':' joined :: (ts ++ rest)) :=
        skipFrom?_of_next rfl rfl
      _ = skipFrom? .segment (ts ++ rest) := skipFrom?_of_next (part?_colons ..) rfl
      _ = skipFrom? .afterPath rest := ih

/-- A path is read as an operand. -/
theorem skipFrom?_path {ts : List Token} {path : List String} (h : IsPath ts path)
    (hwords : ∀ w ∈ path, IsPathWord w) {e : Expectation} (he : e.WantsOperand)
    (rest : List Token) : skipFrom? e (ts ++ rest) = skipFrom? .afterPath rest := by
  cases h with
  | plain h =>
    cases h with
    | last name =>
      exact skipFrom?_of_next rfl (Progress.ofPart_pathWord he (hwords _ (List.mem_cons_self ..)))
    | @cons name joined ts _ h =>
      calc skipFrom? e (.word name :: .mark ':' true :: .mark ':' joined :: (ts ++ rest))
        _ = skipFrom? .afterPath (.mark ':' true :: .mark ':' joined :: (ts ++ rest)) :=
          skipFrom?_of_next rfl
            (Progress.ofPart_pathWord he (hwords _ (List.mem_cons_self ..)))
        _ = skipFrom? .segment (ts ++ rest) := skipFrom?_of_next (part?_colons ..) rfl
        _ = skipFrom? .afterPath rest := skipFrom?_segments h rest
  | @rooted joined ts _ h =>
    calc skipFrom? e (.mark ':' true :: .mark ':' joined :: (ts ++ rest))
      _ = skipFrom? .segment (ts ++ rest) := by
        refine skipFrom?_of_next (part?_colons ..) ?_
        obtain rfl | rfl := he <;> rfl
      _ = skipFrom? .afterPath rest := skipFrom?_segments h rest

/-- An expression is read as an operand, whatever follows. -/
theorem skipFrom?_expression {ts : List Token} (h : IsExpression ts) {e : Expectation}
    (he : e.WantsOperand) :
    ∃ e' : Expectation, e'.HasOperand ∧
      ∀ rest, skipFrom? e (ts ++ rest) = skipFrom? e' rest := by
  match h with
  | .text .. | .literal .. =>
    refine ⟨.afterValue, .inr rfl, fun rest => skipFrom?_of_next rfl ?_⟩
    obtain rfl | rfl := he <;> rfl
  | .truth hw =>
    refine ⟨.afterValue, .inr rfl, fun rest => skipFrom?_of_next rfl ?_⟩
    obtain rfl | rfl := hw
    · obtain rfl | rfl := he <;> rfl
    · obtain rfl | rfl := he <;> rfl
  | .path h hwords => exact ⟨.afterPath, .inl rfl, skipFrom?_path h hwords he⟩
  | @IsExpression.bang ts _ h hwords b inner =>
    refine ⟨.afterValue, .inr rfl, fun rest => ?_⟩
    calc skipFrom? e (ts ++ [.mark '!' false, .group b inner] ++ rest)
      _ = skipFrom? .afterPath (.mark '!' false :: .group b inner :: rest) := by
        rw [List.append_assoc, skipFrom?_path h hwords he]
        rfl
      _ = skipFrom? .bangArguments (.group b inner :: rest) := skipFrom?_of_next rfl rfl
      _ = skipFrom? .afterValue rest := skipFrom?_of_next rfl rfl
  | .enclosed .. =>
    refine ⟨.afterValue, .inr rfl, fun rest => skipFrom?_of_next rfl ?_⟩
    obtain rfl | rfl := he <;> rfl
  -- A call, an index, a member or an operator continues what has been read as an operand.
  | .call h _ | .index h _ =>
    obtain ⟨e', he', hread⟩ := skipFrom?_expression h he
    refine ⟨.afterValue, .inr rfl, fun rest => ?_⟩
    rw [List.append_assoc, hread]
    refine skipFrom?_of_next rfl ?_
    obtain rfl | rfl := he' <;> rfl
  | .member h name =>
    obtain ⟨e', he', hread⟩ := skipFrom?_expression h he
    refine ⟨.afterPath, .inl rfl, fun rest => ?_⟩
    rw [List.append_assoc, hread]
    calc skipFrom? e' (.mark '.' false :: .word name :: rest)
      _ = skipFrom? .member (.word name :: rest) := by
        refine skipFrom?_of_next rfl ?_
        obtain rfl | rfl := he' <;> rfl
      _ = skipFrom? .afterPath rest := skipFrom?_of_next rfl rfl
  | @IsExpression.front c hc ts h =>
    obtain ⟨e₁, he₁, hfront⟩ := Progress.ofPart_frontMark he hc
    obtain ⟨e', he', hread⟩ := skipFrom?_expression h he₁
    refine ⟨e', he', fun rest => ?_⟩
    rw [← hread rest]
    exact skipFrom?_of_next rfl hfront
  | @IsExpression.middle ts us h c hc hus =>
    obtain ⟨e₁, he₁, hread₁⟩ := skipFrom?_expression h he
    obtain ⟨e₂, he₂, hread₂⟩ := skipFrom?_expression hus (e := .operand) (.inl rfl)
    refine ⟨e₂, he₂, fun rest => ?_⟩
    rw [List.append_assoc, hread₁, ← hread₂ rest]
    exact skipFrom?_of_next rfl (Progress.ofPart_middleMark he₁ hc)

/-- An expression is skipped up to the comma after it, and no further. -/
theorem skipExpression?_append {ts rest : List Token} (h : IsExpression ts)
    (hrest : AtComma rest) : skipExpression? (ts ++ rest) = some rest := by
  obtain ⟨e, he, hread⟩ := skipFrom?_expression h (e := .operand) (.inl rfl)
  rw [skipExpression?, hread]
  cases hrest with
  | nil => exact skipFrom?_nil (by obtain rfl | rfl := he <;> rfl)
  | comma joined us =>
    exact skipFrom?_of_stop (part?_comma joined us) (by obtain rfl | rfl := he <;> rfl)

/-! ## Reading paths -/

/-- A path ends here. -/
def EndsPath (ts : List Token) : Prop :=
  ∀ joined us, ts ≠ .mark ':' true :: .mark ':' joined :: us

theorem scanSegments?_append {ts rest : List Token} {path : List String}
    (h : AreSegments ts path) (hrest : EndsPath rest) :
    scanSegments? (ts ++ rest) = some (path, rest) := by
  induction h with
  | last name =>
    rw [List.singleton_append, scanSegments?]
    intro joined us
    exact hrest joined us
  | cons name joined _ ih =>
    rw [List.cons_append, List.cons_append, List.cons_append, scanSegments?, ih]

theorem scanPath?_append {ts rest : List Token} {path : List String} (h : IsPath ts path)
    (hrest : EndsPath rest) : scanPath? (ts ++ rest) = some (path, rest) := by
  cases h with
  | plain h =>
    have hs : scanSegments? (ts ++ rest) = some (path, rest) := scanSegments?_append h hrest
    cases h with
    | last | cons => exact hs
  | rooted joined h =>
    rw [List.cons_append, List.cons_append, scanPath?, scanSegments?_append h hrest]

theorem endsPath_equals (joined : Bool) (ts : List Token) :
    EndsPath (.mark '=' joined :: ts) := by
  intro _ _ h
  cases h

theorem endsPath_group (b : Bracket) (inner ts : List Token) :
    EndsPath (.group b inner :: ts) := by
  intro _ _ h
  cases h

theorem AtComma.endsPath {ts : List Token} (h : AtComma ts) : EndsPath ts := by
  rintro joined us rfl
  cases h

/-! ## Lists -/

/-- Items with commas between them and perhaps one after the last, and the names that they say,
one item after the other. -/
inductive Listed (Item : List Token → List String → Prop) : List Token → List String → Prop where
  | last {item : List Token} {names : List String} (h : Item item names) : Listed Item item names
  | closed {item : List Token} {names : List String} (h : Item item names) (joined : Bool) :
      Listed Item (item ++ [.mark ',' joined]) names
  | cons {item ts : List Token} {names more : List String} (h : Item item names) (joined : Bool)
      (hts : Listed Item ts more) :
      Listed Item (item ++ .mark ',' joined :: ts) (names ++ more)

end Token

/-! ## Items -/

namespace Attribute

open Token

/-- A setting, which says its text if it is the one for the written side. -/
inductive IsSetting : List Token → List String → Prop where
  | serialize {ts : List Token} (h : IsPath ts ["serialize"]) (joined : Bool)
      (source name : String) :
      IsSetting (ts ++ [.mark '=' joined, .text source name]) [name]
  | other {ts : List Token} {path : List String} (h : IsPath ts path)
      (hpath : path ≠ ["serialize"]) (joined : Bool) (source value : String) :
      IsSetting (ts ++ [.mark '=' joined, .text source value]) []

/-- An item of a `serde` attribute, and the names that it says. -/
inductive IsItem : List Token → List String → Prop where
  | rename {ts : List Token} (h : IsPath ts ["rename"]) (joined : Bool) (source name : String) :
      IsItem (ts ++ [.mark '=' joined, .text source name]) [name]
  | renameSides {ts inner : List Token} {names : List String} (h : IsPath ts ["rename"])
      (hinner : Listed IsSetting inner names) :
      IsItem (ts ++ [.group .round inner]) names
  | flag {ts : List Token} {path : List String} (h : IsPath ts path) (hpath : path ≠ ["rename"]) :
      IsItem ts []
  | value {ts expression : List Token} {path : List String} (h : IsPath ts path)
      (hpath : path ≠ ["rename"]) (joined : Bool) (he : IsExpression expression) :
      IsItem (ts ++ .mark '=' joined :: expression) []
  | arguments {ts : List Token} {path : List String} (h : IsPath ts path)
      (hpath : path ≠ ["rename"]) (inner : List Token) :
      IsItem (ts ++ [.group .round inner]) []

/-- The names that the arguments of a `serde` attribute say. -/
inductive Renames : Option (List Token) → List String → Prop where
  | bare : Renames none []
  | empty : Renames (some []) []
  | items {ts : List Token} {names : List String} (h : Listed IsItem ts names) :
      Renames (some ts) names

/-- Is the path of an attribute this word alone? -/
def isNamed (name : String) (a : Attribute) : Bool :=
  match a.path with
  | [.word w] => w == name
  | _ => false

/-- The names that the `serde` attributes among some attributes say, one attribute after the
other. -/
inductive RenamesAll : List Attribute → List String → Prop where
  | nil : RenamesAll [] []
  | serde {a : Attribute} {attributes : List Attribute} {names more : List String}
      (ha : a.isNamed "serde" = true) (h : Renames a.arguments names)
      (hmore : RenamesAll attributes more) : RenamesAll (a :: attributes) (names ++ more)
  | other {a : Attribute} {attributes : List Attribute} {names : List String}
      (ha : a.isNamed "serde" = false) (h : RenamesAll attributes names) :
      RenamesAll (a :: attributes) names

/-! ## Reading items -/

theorem IsSetting.ne_nil {ts : List Token} {names : List String} (h : IsSetting ts names) :
    ts ≠ [] := by
  cases h <;> simp

theorem ne_nil_of_listed {ts : List Token} {names : List String} (h : Listed IsSetting ts names) :
    ts ≠ [] := by
  cases h with
  | last h => exact h.ne_nil
  | closed | cons => simp

/-- A setting is read as it is, whatever follows. -/
theorem scanSetting?_append {ts : List Token} {names : List String} (h : IsSetting ts names)
    (rest : List Token) :
    ∃ path value, scanSetting? (ts ++ rest) = some (path, value, rest) ∧
      ∀ name, (if path = ["serialize"] then some value else name) = names.getLast?.or name := by
  cases h with
  | serialize h joined source name =>
    refine ⟨["serialize"], name, ?_, fun _ => if_pos rfl⟩
    simp only [List.append_assoc, List.cons_append, List.nil_append, scanSetting?,
      scanPath?_append h (endsPath_equals joined _)]
  | @other _ path h hpath joined source value =>
    refine ⟨path, value, ?_, fun _ => if_neg hpath⟩
    simp only [List.append_assoc, List.cons_append, List.nil_append, scanSetting?,
      scanPath?_append h (endsPath_equals joined _)]

/-- The sides of a renaming end after a setting that nothing follows but perhaps a comma. -/
theorem readSides_last {ts rest : List Token} {path : List String} {value : String}
    (h : scanSetting? ts = some (path, value, rest))
    (hrest : rest = [] ∨ ∃ joined, rest = [.mark ',' joined]) (name : Option String) :
    readSides name ts = (if path = ["serialize"] then some value else name, true) := by
  rw [readSides]
  split
  · next hnone => rw [h] at hnone; cases hnone
  · next setting hs =>
    obtain rfl : (path, value, rest) = setting := Option.some.inj (h.symm.trans hs)
    dsimp only
    obtain rfl | ⟨joined, rfl⟩ := hrest
    · rfl
    · rfl

/-- After a comma that more follows, the sides of a renaming go on. -/
theorem readSides_comma {ts rest : List Token} {path : List String} {value : String}
    {joined : Bool} (h : scanSetting? ts = some (path, value, .mark ',' joined :: rest))
    (hrest : rest ≠ []) (name : Option String) :
    readSides name ts = readSides (if path = ["serialize"] then some value else name) rest := by
  rw [readSides]
  split
  · next hnone => rw [h] at hnone; cases hnone
  · next setting hs =>
    obtain rfl : (path, value, .mark ',' joined :: rest) = setting :=
      Option.some.inj (h.symm.trans hs)
    dsimp only
    cases rest with
    | nil => exact absurd rfl hrest
    | cons t rest => rfl

/-- The last name that the sides of a renaming say counts, and nothing is wrong with them. -/
theorem readSides_of_listed {ts : List Token} {names : List String}
    (h : Listed IsSetting ts names) (name : Option String) :
    readSides name ts = (names.getLast?.or name, true) := by
  induction h generalizing name with
  | @last item names h =>
    obtain ⟨path, value, hs, hname⟩ := scanSetting?_append h []
    rw [List.append_nil] at hs
    rw [readSides_last hs (.inl rfl), hname]
  | closed h joined =>
    obtain ⟨path, value, hs, hname⟩ := scanSetting?_append h [.mark ',' joined]
    rw [readSides_last hs (.inr ⟨joined, rfl⟩), hname]
  | @cons item ts names more h joined hts ih =>
    obtain ⟨path, value, hs, hname⟩ := scanSetting?_append h (.mark ',' joined :: ts)
    rw [readSides_comma hs (ne_nil_of_listed hts), hname, ih, List.getLast?_append, Option.or_assoc]

/-- An item is read to its end, and the last name that it says counts. -/
theorem readItem_append {ts rest : List Token} {names : List String} (h : IsItem ts names)
    (hrest : AtComma rest) (name : Option String) :
    readItem name (ts ++ rest) = (names.getLast?.or name, some rest) := by
  cases h with
  | rename h joined source name' =>
    simp only [List.append_assoc, List.cons_append, List.nil_append, readItem,
      scanPath?_append h (endsPath_equals joined _)]
    rfl
  | renameSides h hinner =>
    simp only [List.append_assoc, List.cons_append, List.nil_append, readItem,
      scanPath?_append h (endsPath_group _ _ _), readSides_of_listed hinner]
    rfl
  | flag h hpath =>
    rw [readItem, scanPath?_append h hrest.endsPath]
    dsimp only
    rw [if_neg hpath]
    cases hrest with
    | nil | comma => rfl
  | value h hpath joined he =>
    simp only [List.append_assoc, List.cons_append, readItem,
      scanPath?_append h (endsPath_equals joined _), if_neg hpath,
      skipExpression?_append he hrest]
    rfl
  | arguments h hpath inner =>
    simp only [List.append_assoc, List.cons_append, List.nil_append, readItem,
      scanPath?_append h (endsPath_group _ _ _), if_neg hpath]
    rfl

/-- Reading goes on after the comma that ends an item. -/
theorem readItems_of_readItem {ts rest : List Token} {name name' : Option String}
    (h : readItem name ts = (name', some rest)) (hrest : AtComma rest) :
    readItems name ts = readItems name' rest.tail := by
  cases ts with
  | nil => cases h
  | cons t ts =>
    rw [readItems]
    cases hrest with
    | nil =>
      split
      · next hi => rw [h] at hi; cases hi
      · rw [h, List.tail_nil, readItems]
    | comma joined us =>
      split
      · next joined' r hi =>
        have hr : us = r := by
          rw [h] at hi
          cases hi
          rfl
        change readItems (readItem name (t :: ts)).1 r = readItems name' us
        rw [h, hr]
      · next hi =>
        rw [h] at hi
        exact absurd rfl (hi _ _)

/-- Reading does not stop before the last item, and the last name that is said counts. -/
theorem readItems_of_listed {ts : List Token} {names : List String} (h : Listed IsItem ts names)
    (name : Option String) : readItems name ts = names.getLast?.or name := by
  induction h generalizing name with
  | last h =>
    have hi := readItem_append h .nil name
    rw [List.append_nil] at hi
    rw [readItems_of_readItem hi .nil, List.tail_nil, readItems]
  | closed h joined =>
    have hrest := AtComma.comma joined []
    rw [readItems_of_readItem (readItem_append h hrest name) hrest, List.tail_cons, readItems]
  | @cons _ us _ _ h joined hts ih =>
    have hrest := AtComma.comma joined us
    rw [readItems_of_readItem (readItem_append h hrest name) hrest, List.tail_cons, ih,
      List.getLast?_append, Option.or_assoc]

/-- The last name that an attribute says counts. -/
theorem serialName_of_renames {arguments : Option (List Token)} {names : List String}
    (h : Renames arguments names) (name : Option String) :
    serialName name arguments = names.getLast?.or name := by
  cases h with
  | bare => rfl
  | empty => rw [serialName, readItems, List.getLast?_nil, Option.none_or]
  | items h => exact readItems_of_listed h name

end Attribute

end RecordCheck
