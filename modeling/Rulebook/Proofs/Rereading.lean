import Rulebook.Proofs.Woven

/-!
# Reading the conditions back

The `when` block of a rule source has all that its conditions say: `Drl.readPattern` finds the
field, the operator and the literal of the condition in the line that was made of it. The object is
what the line starts with, and it tells how long its type is, which may have more letters than the
object has. The property and the operator end at a space, and the rest of the line is the token. A
token in double quotes was a text, and one without them stands as it was authored; no literal that
begins with a quote is anything else but a text, so the two cannot be confused.

A field with a space or without a point would be read differently, and so would an operator with a
space; a newline could end the block early.
-/

set_option autoImplicit false

namespace Rulebook

/-! ## Quoted literals -/

/-- Trimming leaves a first character that is not blank where it is. -/
theorem Text.exists_trim_cons {c : Char} (hc : isBlank c = false) (cs : List Char) :
    ∃ rest, trim (c :: cs) = c :: rest := by
  unfold trim
  rw [List.dropWhile_cons_of_neg (by simp [hc]), List.reverse_cons, List.dropWhile_append]
  split_ifs
  · exact ⟨[], by rw [List.dropWhile_cons_of_neg (by simp [hc])]; rfl⟩
  · exact ⟨_, List.reverse_append⟩

/-- What begins with a double quote is no numeral. -/
theorem Numeral.number?_quote (cs : List Char) : number? ('"' :: cs) = none := by
  obtain ⟨rest, htrim⟩ := Text.exists_trim_cons (c := '"') (by decide) cs
  have hradix : radixInteger? ('"' :: rest) = none := by simp [radixInteger?]
  have hinfinity : infinity? ('"' :: rest) = none := by simp [infinity?]
  have hdigit : Text.digitValue? '"' = none := by decide
  have hdecimal : decimal? ('"' :: rest) = none := by
    simp [decimal?, sign, places?, digits, hdigit]
  simp [number?, htrim, hradix, hinfinity, hdecimal]

/-- So it is a text. -/
theorem Literal.isText_of_quote {t : String} {cs : List Char} (ht : t.toList = '"' :: cs) :
    (Value.ofLiteral t).IsText := by
  rw [isText_ofLiteral_iff]
  rcases read_cases t with ⟨n, hn, -⟩ | ⟨b, rfl, -⟩ | hread
  · rw [ht, Numeral.number?_quote] at hn
    exact nomatch hn
  · revert ht
    cases b <;> simp [word]
  · exact hread

namespace Drl

/-! ## The reader -/

/-- The lines between the first `when` and the next `then`. -/
def whenBlock (source : String) : List String :=
  (((Text.lines source).dropWhile (· != "when")).drop 1).takeWhile (· != "then")

/-- What is before the first space, and what is after it. -/
def word (cs : List Char) : List Char × List Char :=
  (cs.takeWhile (· != ' '), (cs.dropWhile (· != ' ')).drop 1)

/-- The literal that a token was made of. -/
def readToken : List Char → String
  | '"' :: cs => .ofList cs.dropLast
  | cs => .ofList cs

/-- The condition that the line of a pattern was made of. -/
def readPattern (line : String) : Option Condition :=
  match line.toList with
  | ' ' :: ' ' :: ' ' :: ' ' :: '$' :: cs =>
    let (object, cs) := word cs
    let type := Text.capitalizeFirst (.ofList object)
    let (property, cs) := word (cs.drop (": ".length + type.length + "(".length))
    let (operator, cs) := word cs
    some ⟨.ofList (object ++ '.' :: property), .ofList operator, readToken cs.dropLast⟩
  | _ => none

/-! ## Lines -/

theorem word_append {cs : List Char} (h : ' ' ∉ cs) (rest : List Char) :
    word (cs ++ ' ' :: rest) = (cs, rest) := by
  have hcs : ∀ c ∈ cs, (c != ' ') = true := by
    intro c hc
    exact bne_iff_ne.mpr (ne_of_mem_of_not_mem hc h)
  unfold word
  rw [List.takeWhile_append_of_pos hcs, List.dropWhile_append_of_pos hcs]
  simp

/-- Unquoting undoes quoting. -/
theorem readToken_token (t : String) : readToken (Literal.token t).toList = t := by
  by_cases htext : (Value.ofLiteral t).IsText
  · simp [Literal.token_of_isText htext, readToken]
  · rw [Literal.token_of_not_isText htext]
    unfold readToken
    split
    · next cs ht => exact absurd (Literal.isText_of_quote ht) htext
    · exact String.ofList_toList

theorem splitPath_object_subset (path : String) : (splitPath path).1.toList ⊆ path.toList := by
  simpa [splitPath] using List.takeWhile_subset (· != '.')

theorem splitPath_property_subset (path : String) : (splitPath path).2.toList ⊆ path.toList := by
  simpa [splitPath] using
    List.Subset.trans (List.drop_subset 1 _) (List.dropWhile_suffix (· != '.')).subset

/-- The two parts of a path make up the path again. -/
theorem splitPath_join {path : String} (h : '.' ∈ path.toList) :
    String.ofList ((splitPath path).1.toList ++ '.' :: (splitPath path).2.toList) = path := by
  -- The part from the first point on begins with that point, which is dropped from the property.
  have hrest : path.toList.dropWhile (· != '.') ≠ [] := by
    intro hnil
    exact absurd (List.dropWhile_eq_nil_iff.mp hnil '.' h) (by decide)
  obtain ⟨c, cs, hcs⟩ := List.exists_cons_of_ne_nil hrest
  have hpoint : c = '.' := by
    have := List.head_dropWhile_not (· != '.') hrest
    simpa [hcs] using this
  have hpath := List.takeWhile_append_dropWhile (p := (· != '.')) (l := path.toList)
  rw [hcs, hpoint] at hpath
  simp only [splitPath, String.toList_ofList, hcs, List.drop_one, List.tail_cons]
  rw [hpath, String.ofList_toList]

end Drl

/-- A condition that can be found again in its pattern. -/
@[mk_iff]
structure Condition.Rereadable (c : Condition) : Prop where
  pointed : '.' ∈ c.field.toList
  solid : ' ' ∉ c.field.toList
  fieldFlat : Text.newlines c.field = 0
  literalFlat : Text.newlines c.literal = 0
  known : Operator.ofTag? c.operator ≠ none

instance (c : Condition) : Decidable c.Rereadable :=
  decidable_of_iff _ (Condition.rereadable_iff c).symm

/-- A rule whose conditions can be found again in its source. -/
@[mk_iff]
structure LinkedRule.Rereadable (r : LinkedRule) : Prop where
  nameFlat : Text.newlines r.rule.content.name = 0
  descriptionFlat : Text.newlines r.rule.content.description = 0
  conditions : ∀ c ∈ r.conditions, c.content.Rereadable

instance (r : LinkedRule) : Decidable r.Rereadable :=
  decidable_of_iff _ (LinkedRule.rereadable_iff r).symm

namespace Drl

/-- Operators are single words. -/
theorem operator_solid {tag : String} (h : Operator.ofTag? tag ≠ none) :
    ' ' ∉ tag.toList ∧ Text.newlines tag = 0 := by
  have hall : ∀ op ∈ Operator.all, ' ' ∉ op.tag.toList ∧ Text.newlines op.tag = 0 := by decide
  obtain ⟨op, hop⟩ := Option.ne_none_iff_exists'.mp h
  unfold Operator.ofTag? at hop
  obtain rfl : op.tag = tag := by simpa using List.find?_some hop
  exact hall op (List.mem_of_find?_eq_some hop)

/-- **A pattern is read back as the condition it was made of.** -/
theorem readPattern_line {c : Condition} (h : c.Rereadable) :
    readPattern (Binding.ofCondition c).line = some c := by
  obtain ⟨object, property, hpath⟩ : ∃ o p, splitPath c.field = (o, p) := ⟨_, _, rfl⟩
  have hobject : ' ' ∉ object.toList := by
    have := splitPath_object_subset c.field
    rw [hpath] at this
    exact fun hmem => h.solid (this hmem)
  have hproperty : ' ' ∉ property.toList := by
    have := splitPath_property_subset c.field
    rw [hpath] at this
    exact fun hmem => h.solid (this hmem)
  have hfield := splitPath_join h.pointed
  rw [hpath] at hfield
  have hline : (Binding.ofCondition c).line.toList =
      ' ' :: ' ' :: ' ' :: ' ' :: '$' :: (object.toList ++ ' ' :: ((": " ++
        Text.capitalizeFirst object ++ "(").toList ++ (property.toList ++ ' ' ::
          (c.operator.toList ++ ' ' :: ((Literal.token c.literal).toList ++ [')']))))) := by
    simp [Binding.ofCondition, hpath, Binding.line, indent]
  -- The reader knows the object by now, and so how many characters its type takes.
  have hskip : ": ".length + (Text.capitalizeFirst object).length + "(".length =
      (": " ++ Text.capitalizeFirst object ++ "(").toList.length := by
    rw [String.length_toList, String.length_append, String.length_append]
  unfold readPattern
  rw [hline]
  simp only [word_append hobject, String.ofList_toList, hskip, List.drop_left,
    word_append hproperty, word_append (operator_solid h.known).1, List.dropLast_concat,
    readToken_token, hfield]

/-! ## The block -/

theorem whenBlock_of_lines {source : String} {before block : List String} (after : List String)
    (hlines : Text.lines source = before ++ "when" :: (block ++ "then" :: after))
    (hbefore : "when" ∉ before) (hblock : "then" ∉ block) : whenBlock source = block := by
  have hskip : ∀ l ∈ before, (l != "when") = true := by
    intro l hl
    exact bne_iff_ne.mpr (ne_of_mem_of_not_mem hl hbefore)
  have htake : ∀ l ∈ block, (l != "then") = true := by
    intro l hl
    exact bne_iff_ne.mpr (ne_of_mem_of_not_mem hl hblock)
  unfold whenBlock
  rw [hlines, List.dropWhile_append_of_pos hskip, List.dropWhile_cons_of_neg (by simp),
    List.drop_one, List.tail_cons, List.takeWhile_append_of_pos htake,
    List.takeWhile_cons_of_neg (by simp), List.append_nil]

/-- No line as it is made is a keyword. -/
theorem keyword_not_mem {w : String} (hw : w ∈ keywords) (ws : List Woven) :
    w ∉ ws.map Woven.text := by
  intro hmem
  obtain ⟨line, -, hline⟩ := List.mem_map.mp hmem
  have hbare := isBare_of_mem_keywords w hw
  rw [← hline, line.isBare_text] at hbare
  exact nomatch hbare

/-- Lines without newlines stay as they are. -/
theorem flatMap_lines {ws : List Woven} (h : ∀ w ∈ ws, Text.newlines w.text = 0) :
    (ws.map Woven.text).flatMap Text.lines = ws.map Woven.text := by
  rw [List.flatMap_map, List.map_eq_flatMap]
  exact List.flatMap_congr fun w hw => Text.lines_of_flat (h w hw)

/-- **The block of a document.** Nothing before it and nothing in it looks like a keyword, as long
as no newline is authored there. -/
theorem whenBlock_text {d : Document}
    (hheader : ∀ w ∈ d.header, Text.newlines w.text = 0)
    (hpatterns : ∀ w ∈ d.patterns, Text.newlines w.text = 0) :
    whenBlock d.text = d.whenLines := by
  -- What follows the block may be anything, so only the lines up to it have to be known.
  have hlines := d.lines_text
  rw [d.lines_eq, List.flatMap_append, List.flatMap_cons, List.flatMap_append, List.flatMap_cons,
    flatMap_lines hheader, flatMap_lines hpatterns, Text.lines_of_flat (s := "when") (by decide),
    Text.lines_of_flat (s := "then") (by decide)] at hlines
  rw [d.whenLines_eq]
  have hbefore : "when" ∉ Document.preambleLines ++ d.header.map Woven.text := by
    rw [List.mem_append, not_or]
    exact ⟨by decide, keyword_not_mem (by decide) _⟩
  refine whenBlock_of_lines ((d.effects.map Woven.text ++ ["end"]).flatMap Text.lines ++ [""]) ?_
    hbefore (keyword_not_mem (by decide) _)
  rw [hlines]
  simp only [List.append_assoc, List.cons_append, List.nil_append]

section Rules

variable {r : LinkedRule}

theorem Document.ofLinked_header_flat (h : r.Rereadable) :
    ∀ w ∈ (ofLinked r).header, Text.newlines w.text = 0 := by
  have hname : Text.newlines (ofLinked r).name = 0 := by
    show Text.newlines (orElse _ _) = 0
    unfold orElse
    split_ifs
    · decide
    · exact h.nameFlat
  have hdescription : Text.newlines (ofLinked r).description = 0 := h.descriptionFlat
  unfold header
  split_ifs <;> simp [Woven.newlines_text, Woven.enclosed, Woven.fixed, Woven.closed,
    Woven.openEnded, hname, hdescription]

theorem newlines_eq_zero_of_subset {s t : String} (hsub : s.toList ⊆ t.toList)
    (ht : Text.newlines t = 0) : Text.newlines s = 0 :=
  List.count_eq_zero.mpr fun hmem => List.count_eq_zero.mp ht (hsub hmem)

theorem Binding.ofCondition_flat {c : Condition} (h : c.Rereadable) :
    Text.newlines (Binding.ofCondition c).woven.text = 0 := by
  have hobject : Text.newlines (splitPath c.field).1 = 0 :=
    newlines_eq_zero_of_subset (splitPath_object_subset c.field) h.fieldFlat
  have hproperty : Text.newlines (splitPath c.field).2 = 0 :=
    newlines_eq_zero_of_subset (splitPath_property_subset c.field) h.fieldFlat
  simp [Woven.newlines_text, Binding.ofCondition, woven, Woven.enclosed, Woven.closed,
    Text.newlines_capitalizeFirst, Literal.newlines_token, hobject, hproperty, h.literalFlat,
    (operator_solid h.known).2]

theorem Document.ofLinked_patterns_flat (h : r.Rereadable) :
    ∀ w ∈ (ofLinked r).patterns, Text.newlines w.text = 0 := by
  intro w hw
  unfold patterns at hw
  split_ifs at hw
  · obtain rfl := List.mem_singleton.mp hw
    decide
  · rw [ofLinked_bindings, List.map_map] at hw
    obtain ⟨c, hc, rfl⟩ := List.mem_map.mp hw
    exact Binding.ofCondition_flat (h.conditions c hc)

theorem whenBlock_generate (h : r.Rereadable) :
    whenBlock (generate (some r)) = (Document.ofLinked r).whenLines :=
  whenBlock_text (Document.ofLinked_header_flat h) (Document.ofLinked_patterns_flat h)

theorem Document.whenLines_of_nil (h : r.conditions = []) :
    (ofLinked r).whenLines = [indent ++ "// No conditions defined"] := by
  rw [whenLines, ofLinked_bindings, h]
  rfl

theorem Document.whenLines_of_ne_nil (h : r.conditions ≠ []) :
    (ofLinked r).whenLines = r.conditions.map fun c => (Binding.ofCondition c.content).line := by
  have hbindings : (ofLinked r).bindings.isEmpty = false := by
    rw [ofLinked_bindings, List.isEmpty_map, List.isEmpty_eq_false_iff]
    exact h
  rw [whenLines, hbindings, if_neg Bool.false_ne_true, ofLinked_bindings, List.map_map]
  rfl

theorem Document.map_readPattern (h : r.Rereadable) (hne : r.conditions ≠ []) :
    (ofLinked r).whenLines.map readPattern = r.conditions.map fun c => some c.content := by
  rw [whenLines_of_ne_nil hne, List.map_map]
  apply List.map_congr_left
  intro c hc
  simp only [Function.comp_apply, readPattern_line (h.conditions c hc)]

/-- With or without conditions, what is read is what was written. -/
theorem filterMap_readPattern (h : r.Rereadable) :
    (whenBlock (generate (some r))).filterMap readPattern = r.conditions.map (·.content) := by
  rw [whenBlock_generate h]
  by_cases hnil : r.conditions = []
  · rw [Document.whenLines_of_nil hnil, hnil]
    rfl
  · have hsplit : ∀ ls : List String,
        ls.filterMap readPattern = (ls.map readPattern).filterMap id := by
      intro ls
      rw [List.filterMap_map, Function.id_comp]
    rw [hsplit, Document.map_readPattern h hnil, List.filterMap_map]
    exact congrFun List.filterMap_eq_map r.conditions

/-- The remark that there are no conditions is no pattern. -/
theorem line_ne_remark (b : Binding) : b.line ≠ indent ++ "// No conditions defined" := by
  intro h
  have hlist := congrArg String.toList h
  simp [Binding.line, indent] at hlist

end Rules

/-- **The conditions of a rule can be read back from its source.** The lines of the `when` block are
one for each condition, in order, and each of them gives its condition back. Without conditions
there is one line instead, which is no pattern. So rules with the same source have the same
conditions. -/
theorem conditions_reread (r : LinkedRule) (h : r.Rereadable) :
    (r.conditions ≠ [] → (whenBlock (generate (some r))).map readPattern =
      r.conditions.map fun c => some c.content) ∧
    (r.conditions = [] → ∃ remark, whenBlock (generate (some r)) = [remark] ∧
      readPattern remark = none ∧ ∀ b : Binding, b.line ≠ remark) ∧
    ∀ r' : LinkedRule, r'.Rereadable → generate (some r') = generate (some r) →
      r'.conditions.map (·.content) = r.conditions.map (·.content) := by
  refine ⟨?_, ?_, ?_⟩
  · intro hne
    rw [whenBlock_generate h, Document.map_readPattern h hne]
  · intro hnil
    refine ⟨indent ++ "// No conditions defined", ?_, rfl, line_ne_remark⟩
    rw [whenBlock_generate h, Document.whenLines_of_nil hnil]
  · intro r' h' hsource
    rw [← filterMap_readPattern h', ← filterMap_readPattern h, hsource]

/-- A rule whose conditions look like other parts of the source. -/
def disguised : LinkedRule where
  rule := ⟨"r", "when", "then", 1⟩
  conditions := [⟨"sharp", "ßet.a.b", "contains", "then"⟩, ⟨"quotes", "x.y", "==", "\"\")"⟩,
    ⟨"closed", ".", "matches", "$x : X(y == 1)"⟩, ⟨"bare", "x.", "<", " 1e3 "⟩,
    ⟨"empty", "x.y", "==", ""⟩]
  actions := [⟨"s", "setProperty", "x.y", "\n"⟩]

/-- The same rule, on other nodes. -/
def disguisedAgain : LinkedRule :=
  { disguised with conditions := disguised.conditions.map fun c => ⟨"again " ++ c.id, c.content⟩ }

theorem conditions_reread_disguised :
    (whenBlock (generate (some disguised))).map readPattern =
      [some ⟨"ßet.a.b", "contains", "then"⟩, some ⟨"x.y", "==", "\"\")"⟩,
        some ⟨".", "matches", "$x : X(y == 1)"⟩, some ⟨"x.", "<", " 1e3 "⟩,
        some ⟨"x.y", "==", ""⟩] ∧
    (∃ remark, whenBlock (generate (some { disguised with conditions := [] })) = [remark] ∧
      readPattern remark = none ∧ ∀ b : Binding, b.line ≠ remark) ∧
    disguisedAgain.conditions.map (·.content) = disguised.conditions.map (·.content) := by
  have hreads : disguised.Rereadable := by decide
  refine ⟨(conditions_reread disguised hreads).1 (by decide),
    (conditions_reread { disguised with conditions := [] } (by decide)).2.1 rfl,
    (conditions_reread disguised hreads).2.2 disguisedAgain (by decide) rfl⟩

end Drl

end Rulebook
