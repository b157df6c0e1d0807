import Rulebook.Proofs.Woven

/-!
# The shape of a rule source

Authored texts are written into a rule source just as they are: the template escapes nothing. So the
shape of a source is that of the template as far as the texts leave it alone. This file says what
they can do to it, which is not much and always visible in the text itself: add lines, by newlines;
repeat a keyword, by a line of their own; close the comment early, by the characters that close
comments; end a token, by a double quote.

The template's places are of two kinds. A text that is *enclosed* has more of the line after it, and
its last line is no line of its own. A text that is *trailing* runs to the end of the line.
-/

set_option autoImplicit false

namespace Rulebook

/-! ## Where authored texts are written -/

/-- The enclosed texts of a condition. The object is there twice, as a variable and as a type. -/
def Condition.enclosed (c : Condition) : List String :=
  let (object, property) := Drl.splitPath c.field
  [object, object, property, c.operator, c.literal]

namespace Action

/-- The enclosed texts of an action. -/
def enclosed (a : Action) : List String :=
  let (object, property) := Drl.splitPath a.target
  match ActionKind.ofTag? a.tag with
  | some .setProperty | some .modifyFact => [object, property, a.literal]
  | some .callMethod => [object, a.literal]
  | some .insertFact => [a.target]
  | some .deleteFact => [object]
  | none => []

/-- The trailing texts of an action: a kind that is not known is named in a remark. -/
def trailing (a : Action) : List String :=
  match ActionKind.ofTag? a.tag with
  | some _ => []
  | none => [a.tag]

/-- How many lines the template has for an action. -/
def height (a : Action) : Nat :=
  if ActionKind.ofTag? a.tag = some .modifyFact then 3 else 1

end Action

namespace LinkedRule

/-- All enclosed texts of a rule. The object of the first action is there once more, as what is
updated. -/
def enclosed (r : LinkedRule) : List String :=
  r.rule.content.name :: (r.conditions.flatMap (·.content.enclosed) ++
    (r.actions.flatMap (·.content.enclosed) ++
      (r.actions.take 1).map fun a => (Drl.splitPath a.content.target).1))

/-- All trailing texts of a rule. -/
def trailing (r : LinkedRule) : List String :=
  r.rule.content.description :: r.actions.flatMap (·.content.trailing)

/-- How many lines the template has for a rule: those before the comment, the comment, the header,
the three keywords, and the two blocks, of which an empty one has a remark. -/
def height (r : LinkedRule) : Nat :=
  5 + (if r.rule.content.description = "" then 0 else 3) + 2 + 3 + max 1 r.conditions.length +
    if r.actions = [] then 1 else (r.actions.map (·.content.height)).sum + 1

/-- The rule without its description. -/
def undescribed (r : LinkedRule) : LinkedRule :=
  { r with rule := ⟨r.rule.id, { r.rule.content with description := "" }⟩ }

end LinkedRule

namespace Drl

/-! ## Counting along the template

Newlines and lines that are a keyword are counted in the same way: they are added up over the texts,
and neither capitals nor quotes around a text make a difference.
-/

/-- Something to count in authored texts, by the two kinds of places where they stand. -/
structure Tally where
  enclosed : String → Nat
  trailing : String → Nat
  capitalized : ∀ s, enclosed (Text.capitalizeFirst s) = enclosed s
  token : ∀ s, enclosed (Literal.token s) = enclosed s
  flat : ∀ s, Text.newlines s = 0 → enclosed s = 0
  empty : trailing "" = 0

namespace Tally

def newlines : Tally where
  enclosed := Text.newlines
  trailing := Text.newlines
  capitalized := Text.newlines_capitalizeFirst
  token := Literal.newlines_token
  flat _ h := h
  empty := rfl

/-- The lines of their own that say one thing. -/
def linesOf (l : String) : Tally where
  enclosed s := (Text.innerLines s).count l
  trailing s := (Text.laterLines s).count l
  capitalized s := by simp only [Text.innerLines, Text.laterLines_capitalizeFirst]
  token s := by simp only [Literal.innerLines_token]
  flat s h := by rw [Text.innerLines, Text.laterLines, Text.lines_of_flat h]; rfl
  empty := rfl

variable (T : Tally)

def line (w : Woven) : Nat :=
  (w.enclosed.map T.enclosed).sum + T.trailing w.tail

def lines (ws : List Woven) : Nat :=
  (ws.map T.line).sum

/-- The count for texts of both kinds. -/
def texts (enclosed trailing : List String) : Nat :=
  (enclosed.map T.enclosed).sum + (trailing.map T.trailing).sum

@[simp] theorem lines_nil : T.lines [] = 0 := rfl

@[simp] theorem lines_cons (w : Woven) (ws : List Woven) :
    T.lines (w :: ws) = T.line w + T.lines ws := by
  rw [lines, List.map_cons, List.sum_cons, lines]

@[simp] theorem lines_append (xs ys : List Woven) :
    T.lines (xs ++ ys) = T.lines xs + T.lines ys := by
  rw [lines, List.map_append, List.sum_append, lines, lines]

@[simp] theorem texts_nil : T.texts [] [] = 0 := rfl

theorem texts_append (as bs cs ds : List String) :
    T.texts (as ++ bs) (cs ++ ds) = T.texts as cs + T.texts bs ds := by
  unfold texts
  rw [List.map_append, List.map_append, List.sum_append, List.sum_append]
  omega

@[simp] theorem line_fixed (m : Mark) : T.line (.fixed m) = 0 :=
  (Nat.zero_add _).trans T.empty

@[simp] theorem line_closed (parts : List (Mark × String)) (m : Mark) :
    T.line (.closed parts m) = ((parts.map (·.2)).map T.enclosed).sum := by
  rw [line, Woven.enclosed, Woven.closed, T.empty, Nat.add_zero]

@[simp] theorem line_openEnded (m : Mark) (t : String) : T.line (.openEnded m t) = T.trailing t :=
  Nat.zero_add _

theorem binding_ofCondition (c : Condition) :
    T.line (Binding.ofCondition c).woven = T.texts c.enclosed [] := by
  simp [Binding.ofCondition, Binding.woven, texts, Condition.enclosed, T.capitalized, T.token]

theorem lines_bindings (cs : List (Placed Condition)) :
    T.lines ((cs.map fun c => Binding.ofCondition c.content).map (·.woven)) =
      T.texts (cs.flatMap (·.content.enclosed)) [] := by
  induction cs with
  | nil => rfl
  | cons c cs ih =>
    rw [List.map_cons, List.map_cons, lines_cons, ih, binding_ofCondition, List.flatMap_cons,
      ← texts_append, List.append_nil]

theorem statement_ofAction (a : Action) :
    T.lines (Statement.ofAction a).woven = T.texts a.enclosed a.trailing := by
  unfold Statement.ofAction Action.enclosed Action.trailing
  cases ActionKind.ofTag? a.tag with
  | none => simp [Statement.woven, texts]
  | some kind => cases kind <;> simp [Statement.woven, texts, T.capitalized, T.token]

theorem lines_statements (as : List (Placed Action)) :
    T.lines ((as.map fun a => Statement.ofAction a.content).flatMap (·.woven)) =
      T.texts (as.flatMap (·.content.enclosed)) (as.flatMap (·.content.trailing)) := by
  induction as with
  | nil => rfl
  | cons a as ih =>
    rw [List.map_cons, List.flatMap_cons, lines_append, ih, statement_ofAction, List.flatMap_cons,
      List.flatMap_cons, texts_append]

/-- The texts that are written in place of empty ones count for nothing either. -/
theorem enclosed_orElse (s fallback : String) (h : Text.newlines fallback = 0) :
    T.enclosed (orElse s fallback) = T.enclosed s := by
  unfold orElse
  split_ifs with hs
  · rw [hs, T.flat fallback h, T.flat "" rfl]
  · rfl

variable (r : LinkedRule)

theorem lines_header :
    T.lines (Document.ofLinked r).header =
      T.texts [r.rule.content.name] [r.rule.content.description] := by
  have hname : T.enclosed (Document.ofLinked r).name = T.enclosed r.rule.content.name :=
    T.enclosed_orElse _ "UnnamedRule" (by decide)
  have hdescription : (Document.ofLinked r).description = r.rule.content.description := rfl
  unfold Document.header
  split_ifs with h
  · rw [hdescription] at h
    simp [texts, hname, h, T.empty]
  · simp [texts, hname, hdescription, Nat.add_comm]

theorem lines_patterns :
    T.lines (Document.ofLinked r).patterns =
      T.texts (r.conditions.flatMap (·.content.enclosed)) [] := by
  unfold Document.patterns
  split_ifs with h
  · rw [Document.ofLinked_bindings, List.isEmpty_map, List.isEmpty_iff] at h
    simp [h]
  · rw [Document.ofLinked_bindings, lines_bindings]

theorem lines_effects :
    T.lines (Document.ofLinked r).effects =
      T.texts (r.actions.flatMap (·.content.enclosed) ++
        (r.actions.take 1).map fun a => (splitPath a.content.target).1)
          (r.actions.flatMap (·.content.trailing)) := by
  unfold Document.effects
  split_ifs with h
  · rw [Document.ofLinked_statements, List.isEmpty_map, List.isEmpty_iff] at h
    simp [h]
  · have hupdated : T.line (.closed
        [({ text := indent ++ "update($" }, (Document.ofLinked r).updated)] { text := ");" }) =
          T.texts ((r.actions.take 1).map fun a => (splitPath a.content.target).1) [] := by
      unfold Document.ofLinked
      cases r.actions with
      | nil => simp [T.flat "" rfl]
      | cons a as => simp [texts, T.enclosed_orElse _ "object" (by decide)]
    have hsplit := T.texts_append (r.actions.flatMap (·.content.enclosed))
      ((r.actions.take 1).map fun a => (splitPath a.content.target).1)
      (r.actions.flatMap (·.content.trailing)) []
    rw [List.append_nil] at hsplit
    rw [Document.ofLinked_statements, lines_append, lines_statements, lines_cons, hupdated,
      lines_nil, Nat.add_zero, hsplit]

/-- **What is counted in a rule source is counted in its texts.** -/
theorem lines_woven :
    T.lines (Document.ofLinked r).woven = T.texts r.enclosed r.trailing := by
  rw [Document.woven, lines_append, lines_append, lines_header, lines_patterns, lines_effects,
    ← texts_append, ← texts_append]
  rfl

end Tally

/-! ## Lines -/

section Lines

variable (r : LinkedRule)

theorem length_lines (ws : List Woven) :
    ((ws.map Woven.text).flatMap Text.lines).length = ws.length + Tally.newlines.lines ws := by
  induction ws with
  | nil => rfl
  | cons w ws ih =>
    have hline : Text.newlines w.text = Tally.newlines.line w := w.newlines_text
    rw [List.map_cons, List.flatMap_cons, List.length_append, ih, Text.length_lines, hline,
      Tally.lines_cons, List.length_cons]
    omega

theorem count_ownLines (l : String) (w : Woven) :
    w.ownLines.count l = (Tally.linesOf l).line w := by
  rw [Woven.ownLines, List.count_append, List.count_flatMap]
  rfl

/-- Of the lines of a source, only those of the texts can be a keyword. -/
theorem count_lines {k : String} (hk : k ∈ keywords) (ws : List Woven) :
    ((ws.map Woven.text).flatMap Text.lines).count k = (Tally.linesOf k).lines ws := by
  have hbare := isBare_of_mem_keywords k hk
  induction ws with
  | nil => rfl
  | cons w ws ih =>
    rw [List.map_cons, List.flatMap_cons, List.count_append, ih, Tally.lines_cons,
      ← List.count_filter hbare, w.filter_lines, List.count_filter hbare, count_ownLines]

theorem length_statement (a : Action) : (Statement.ofAction a).woven.length = a.height := by
  unfold Statement.ofAction Action.height
  cases ActionKind.ofTag? a.tag with
  | none => rfl
  | some kind => cases kind <;> rfl

/-- The template's lines. -/
theorem length_woven : (Document.ofLinked r).woven.length + 8 = r.height := by
  have hheader : (Document.ofLinked r).header.length =
      (if r.rule.content.description = "" then 0 else 3) + 2 := by
    rw [Document.header, List.length_append, apply_ite List.length]
    rfl
  have hpatterns : (Document.ofLinked r).patterns.length = max 1 r.conditions.length := by
    unfold Document.patterns
    rw [Document.ofLinked_bindings]
    cases r.conditions with
    | nil => rfl
    | cons c cs => simp
  have heffects : (Document.ofLinked r).effects.length =
      if r.actions = [] then 1 else (r.actions.map (·.content.height)).sum + 1 := by
    unfold Document.effects
    rw [Document.ofLinked_statements]
    cases r.actions with
    | nil => rfl
    | cons a as => simp [length_statement, Function.comp_def, List.length_flatMap, Nat.add_assoc]
  rw [Document.woven, List.length_append, List.length_append, hheader, hpatterns, heffects,
    LinkedRule.height]
  omega

theorem newlines_generate :
    Text.newlines (generate (some r)) =
      r.height + Tally.newlines.texts r.enclosed r.trailing := by
  -- A source has one line more than newlines, and it is easier to count its lines.
  have hlines := Text.length_lines (generate (some r))
  have hperm := ((Document.ofLinked r).lines_perm.flatMap_right Text.lines).length_eq
  have hkeywords : (keywords.flatMap Text.lines).length = 3 := by decide
  have hpreamble : Document.preambleLines.length = 5 := rfl
  rw [List.flatMap_append, List.length_append, hkeywords, length_lines, Tally.lines_woven] at hperm
  rw [generate, Document.lines_text, List.length_append, List.length_append, hperm,
    List.length_singleton, hpreamble] at hlines
  have hheight := length_woven r
  rw [generate]
  omega

theorem count_generate {k : String} (hk : k ∈ keywords) :
    (Text.lines (generate (some r))).count k =
      1 + (Tally.linesOf k).texts r.enclosed r.trailing := by
  have hperm := ((Document.ofLinked r).lines_perm.flatMap_right Text.lines).count_eq k
  have hkeywords : ∀ k ∈ keywords, (keywords.flatMap Text.lines).count k = 1 := by decide
  have hother : ∀ k ∈ keywords, Document.preambleLines.count k = 0 ∧ [""].count k = 0 := by decide
  rw [List.flatMap_append, List.count_append, hkeywords k hk, count_lines hk,
    Tally.lines_woven] at hperm
  rw [generate, Document.lines_text, List.count_append, List.count_append, hperm, (hother k hk).1,
    (hother k hk).2, Nat.zero_add, Nat.add_zero]

end Lines

/-! ## The comment -/

/-- What follows the first place where two characters stand side by side. -/
def after? (a b : Char) : List Char → Option (List Char)
  | c :: d :: cs => if c = a ∧ d = b then some cs else after? a b (d :: cs)
  | _ => none

/-- What follows the first comment of a source. -/
def afterComment? (source : String) : Option (List Char) :=
  (after? '/' '*' source.toList).bind (after? '*' '/')

theorem after?_of_not_infix {a b : Char} {before : List Char} (h : ¬ [a, b] <:+: before ++ [a])
    (rest : List Char) : after? a b (before ++ a :: b :: rest) = some rest := by
  induction before with
  | nil => simp [after?]
  | cons c before ih =>
    rw [List.cons_append, List.infix_cons_iff, not_or] at h
    obtain ⟨hstart, hlater⟩ := h
    obtain ⟨d, cs, hcs, hmore⟩ : ∃ d cs, before ++ [a] = d :: cs ∧
        before ++ a :: b :: rest = d :: (cs ++ b :: rest) := by
      cases before with
      | nil => exact ⟨a, [], rfl, rfl⟩
      | cons d before => exact ⟨d, before ++ [a], rfl, by simp⟩
    -- No pair stands here, or it would be one of those before the end.
    have hpair : ¬ (c = a ∧ d = b) := by
      rintro ⟨rfl, rfl⟩
      exact hstart ⟨cs, by rw [hcs]; rfl⟩
    rw [List.cons_append, hmore, after?, if_neg hpair, ← hmore]
    exact ih hlater

theorem after?_of_infix {a b : Char} {before : List Char} (h : [a, b] <:+: before)
    (rest : List Char) : ∃ more, after? a b (before ++ rest) = some (more ++ rest) := by
  induction before with
  | nil => simp at h
  | cons c before ih =>
    cases before with
    | nil => simp [List.infix_cons_iff] at h
    | cons d before =>
      rw [List.cons_append, List.cons_append, after?]
      split_ifs with hpair
      · exact ⟨before, rfl⟩
      · rcases List.infix_cons_iff.mp h with hstart | hlater
        · obtain ⟨cs, hcs⟩ := hstart
          simp only [List.cons_append, List.cons.injEq] at hcs
          exact absurd ⟨hcs.1.symm, hcs.2.1.symm⟩ hpair
        · exact ih hlater

/-- A source with a description is the source without it, and the comment in between. -/
theorem exists_text_eq {d : Document} (h : d.description ≠ "") :
    ∃ body, { d with description := "" }.text = Document.preamble ++ body ∧
      d.text = Document.preamble ++ ("/**\n * " ++ d.description ++ "\n */\n" ++ body) := by
  obtain ⟨l, ls, hls⟩ : ∃ l ls, { d with description := "" }.lines = l :: ls := ⟨_, _, rfl⟩
  have hlines : d.lines = "/**" :: (" * " ++ d.description) :: " */" :: l :: ls := by
    rw [← hls]
    simp [Document.lines, Document.commentLines, Document.whenLines, Document.thenLines, h]
  refine ⟨String.intercalate "\n" (l :: ls) ++ "\n", ?_, ?_⟩
  · rw [Document.text, hls, String.append_assoc]
  · have hopening : "/**\n * " = "/**" ++ "\n" ++ " * " := by decide
    have hclosing : "\n */\n" = "\n" ++ " */" ++ "\n" := by decide
    rw [Document.text, hlines, String.intercalate_cons_of_ne_nil (List.cons_ne_nil _ _),
      String.intercalate_cons_of_ne_nil (List.cons_ne_nil _ _),
      String.intercalate_cons_of_ne_nil (List.cons_ne_nil _ _), hopening, hclosing]
    simp only [String.append_assoc]

section Pairs

variable {a b c d : Char} {cs : List Char}

theorem pair_infix_cons (h : c ≠ a) : [a, b] <:+: c :: cs ↔ [a, b] <:+: cs := by
  rw [List.infix_cons_iff, List.cons_prefix_cons]
  simp [h.symm]

theorem pair_infix_cons_cons (h : d ≠ b) : [a, b] <:+: c :: d :: cs ↔ [a, b] <:+: d :: cs := by
  rw [List.infix_cons_iff, List.cons_prefix_cons, List.cons_prefix_cons]
  simp [h.symm]

theorem pair_infix_concat (h : c ≠ b) : [a, b] <:+: cs ++ [c] ↔ [a, b] <:+: cs := by
  rw [List.infix_concat_iff]
  constructor
  · rintro (⟨before, hbefore⟩ | hcs)
    · have hlast := congrArg List.getLast? hbefore
      simp only [List.getLast?_append, List.getLast?_cons_cons, List.getLast?_singleton,
        Option.some_or, Option.some.injEq] at hlast
      exact absurd hlast.symm h
    · exact hcs
  · exact .inr

/-- What stands between the two ends of a comment with a description. -/
def commentBody (description : List Char) : List Char :=
  '*' :: '\n' :: ' ' :: '*' :: ' ' :: (description ++ ['\n'] ++ [' '])

/-- The template's part of it does not end the comment. -/
theorem infix_commentBody_iff : ['*', '/'] <:+: commentBody cs ↔ ['*', '/'] <:+: cs := by
  rw [commentBody, pair_infix_cons_cons (by decide), pair_infix_cons (by decide),
    pair_infix_cons (by decide), pair_infix_cons_cons (by decide), pair_infix_cons (by decide),
    pair_infix_concat (by decide), pair_infix_concat (by decide)]

end Pairs

/-- **Where the comment ends.** What follows it is what the rule would be without a description,
unless the description ends the comment. -/
theorem afterComment?_iff {r : LinkedRule} (h : r.rule.content.description ≠ "") :
    afterComment? (generate (some r)) = some ('\n' ::
      (generate (some r.undescribed)).toList.drop Document.preamble.length) ↔
        ¬ ['*', '/'] <:+: r.rule.content.description.toList := by
  obtain ⟨body, hplain, htext⟩ := exists_text_eq (d := Document.ofLinked r) h
  have hbody : (generate (some r.undescribed)).toList.drop Document.preamble.length =
      body.toList := by
    have hsame : generate (some r.undescribed) = Document.preamble ++ body := hplain
    rw [hsame, String.toList_append, ← String.length_toList, List.drop_left]
  have hopening : (generate (some r)).toList = Document.preamble.toList ++ '/' :: '*' ::
      (commentBody r.rule.content.description.toList ++ '*' :: '/' :: '\n' :: body.toList) := by
    rw [generate, htext, String.toList_append, String.toList_append, String.toList_append,
      String.toList_append]
    simp [Document.ofLinked, commentBody]
  have hfirst : ¬ ['/', '*'] <:+: Document.preamble.toList ++ ['/'] := by
    rw [pair_infix_concat (by decide)]
    intro h
    exact absurd (h.subset (List.mem_cons_self ..)) (by decide)
  rw [afterComment?, hopening, after?_of_not_infix hfirst, Option.bind_some, hbody,
    ← infix_commentBody_iff]
  constructor
  · -- A comment that ends within the description leaves more behind it.
    intro hend hinside
    obtain ⟨more, hmore⟩ := after?_of_infix hinside ('*' :: '/' :: '\n' :: body.toList)
    have hlength := congrArg List.length (Option.some.inj (hmore.symm.trans hend))
    simp only [List.length_append, List.length_cons] at hlength
    omega
  · intro hinside
    exact after?_of_not_infix (by rwa [pair_infix_concat (by decide)]) _

/-! ## Tokens -/

/-- What follows the double quote that ends a token, once it has begun. A backslash takes away the
meaning of what comes after it. -/
def afterQuote? : List Char → Option (List Char)
  | '"' :: cs => some cs
  | '\\' :: _ :: cs => afterQuote? cs
  | _ :: cs => afterQuote? cs
  | [] => none

/-- Whether a token that begins with a double quote ends just where its text does, whatever comes
after it. -/
def IsQuoted (token : String) : Prop :=
  ∃ cs, token.toList = '"' :: cs ∧ ∀ rest, afterQuote? (cs ++ rest) = some rest

/-- Texts in which double quotes stand after a backslash only, and every backslash stands before
something. -/
inductive Settled : List Char → Prop
  | nil : Settled []
  | plain {c : Char} {cs : List Char} (hquote : c ≠ '"') (hescape : c ≠ '\\')
    (hcs : Settled cs) : Settled (c :: cs)
  | escaped (c : Char) {cs : List Char} (hcs : Settled cs) : Settled ('\\' :: c :: cs)

theorem settled_of_not_mem {cs : List Char} (hquote : '"' ∉ cs) (hescape : '\\' ∉ cs) :
    Settled cs := by
  induction cs with
  | nil => exact .nil
  | cons c cs ih =>
    rw [List.mem_cons, not_or] at hquote hescape
    exact .plain (Ne.symm hquote.1) (Ne.symm hescape.1) (ih hquote.2 hescape.2)

/-- Reading on makes what is left shorter. -/
theorem length_afterQuote? {cs rest : List Char} (h : afterQuote? cs = some rest) :
    rest.length < cs.length := by
  fun_induction afterQuote? cs with
  | case1 cs =>
    obtain rfl := Option.some.inj h
    exact Nat.lt_succ_self _
  | case2 c cs ih => exact (ih h).trans (by simp only [List.length_cons]; omega)
  | case3 c cs _ _ ih => exact (ih h).trans (by simp)
  | case4 => exact nomatch h

theorem afterQuote?_of_settled {cs : List Char} (h : Settled cs) (rest : List Char) :
    afterQuote? (cs ++ '"' :: rest) = some rest := by
  induction h with
  | nil => rfl
  | plain hquote hescape _ ih => simpa [afterQuote?, hquote, hescape] using ih
  | escaped c _ ih => simpa [afterQuote?] using ih

theorem settled_of_afterQuote? {cs rest : List Char}
    (h : afterQuote? (cs ++ '"' :: rest) = some rest) : Settled cs := by
  fun_induction afterQuote? cs with
  | case1 cs =>
    -- The text ends the token itself, and more than the rest is left.
    have hrest : cs ++ '"' :: rest = rest := Option.some.inj h
    have hlength := congrArg List.length hrest
    rw [List.length_append, List.length_cons] at hlength
    omega
  | case2 c cs ih => exact .escaped c (ih h)
  | case3 c cs hquote hescape ih =>
    by_cases hc : c = '\\'
    · -- A last backslash takes away the meaning of the token's own double quote.
      obtain rfl : cs = [] := by
        cases cs with
        | nil => rfl
        | cons d ds => exact (hescape d ds hc rfl).elim
      rw [hc] at h
      have hrest : afterQuote? rest = some rest := h
      exact absurd (length_afterQuote? hrest) (Nat.lt_irrefl _)
    · refine .plain hquote hc (ih ?_)
      simpa [afterQuote?, hquote, hc] using h
  | case4 => exact .nil

/-- **What a text in double quotes takes to be one token.** -/
theorem isQuoted_iff {s : String} : IsQuoted ("\"" ++ s ++ "\"") ↔ Settled s.toList := by
  have htoken : ("\"" ++ s ++ "\"").toList = '"' :: (s.toList ++ ['"']) := by simp
  unfold IsQuoted
  rw [htoken]
  constructor
  · rintro ⟨cs, hcs, hends⟩
    obtain rfl : s.toList ++ ['"'] = cs := List.tail_eq_of_cons_eq hcs
    have hend : afterQuote? (s.toList ++ '"' :: []) = some [] := by simpa using hends []
    exact settled_of_afterQuote? hend
  · intro hs
    refine ⟨_, rfl, fun rest => ?_⟩
    rw [List.append_assoc, List.singleton_append]
    exact afterQuote?_of_settled hs rest

/-! ## The shape of a source -/

/-- How far the shape of a rule's source is that of the template. -/
structure Shaped (r : LinkedRule) : Prop where
  /-- The lines are those of the template and one more for each newline in a text. -/
  height : Text.newlines (generate (some r)) =
    r.height + ((r.enclosed ++ r.trailing).map Text.newlines).sum
  /-- A keyword is a line of the template once, and otherwise it is a line of a text. -/
  keywords : ∀ k ∈ keywords, (Text.lines (generate (some r))).count k =
    1 + (r.enclosed.flatMap Text.innerLines ++ r.trailing.flatMap Text.laterLines).count k
  /-- The comment ends where the template ends it, unless the description does. -/
  comment : r.rule.content.description ≠ "" →
    (afterComment? (generate (some r)) = some ('\n' ::
      (generate (some r.undescribed)).toList.drop Document.preamble.length) ↔
        ¬ "*/".toList <:+: r.rule.content.description.toList)
  /-- The name is one token, unless it ends the token or escapes its end. -/
  name : IsQuoted ("\"" ++ (Document.ofLinked r).name ++ "\"") ↔ Settled r.rule.content.name.toList
  /-- So are the texts that conditions compare with. -/
  compared : ∀ c ∈ r.conditions, (Value.ofLiteral c.content.literal).IsText →
    (IsQuoted (Binding.ofCondition c.content).literal ↔ Settled c.content.literal.toList)
  /-- So are the texts that properties are set to. -/
  assigned : ∀ a ∈ r.actions, ActionKind.ofTag? a.content.tag = some .setProperty →
    (Value.ofLiteral a.content.literal).IsText → ∃ token,
      (Statement.ofAction a.content).argument? = some token ∧
        (IsQuoted token ↔ Settled a.content.literal.toList)

/-- **The shape of a rule source is the template's as far as the texts leave it alone.** -/
theorem generate_shaped (r : LinkedRule) : Shaped r where
  height := by
    rw [newlines_generate r, List.map_append, List.sum_append]
    rfl
  keywords k hk := by
    rw [count_generate r hk, List.count_append, List.count_flatMap, List.count_flatMap]
    rfl
  comment := afterComment?_iff
  name := by
    have hname : (Document.ofLinked r).name = orElse r.rule.content.name "UnnamedRule" := rfl
    rw [isQuoted_iff, hname]
    unfold orElse
    split_ifs with h
    · rw [h]
      exact iff_of_true (settled_of_not_mem (by decide) (by decide)) .nil
    · exact Iff.rfl
  compared c _ htext := by
    show IsQuoted (Literal.token _) ↔ _
    rw [Literal.token_of_isText htext, isQuoted_iff]
  assigned a _ hkind htext := by
    refine ⟨Literal.token a.content.literal, ?_, ?_⟩
    · unfold Statement.ofAction
      rw [hkind]
      rfl
    · rw [Literal.token_of_isText htext, isQuoted_iff]

/-- A rule whose texts stay where they are written. -/
def contained : LinkedRule where
  rule := ⟨"r", "Marking", "Marks orders", 1⟩
  conditions := [⟨"c", "order.kind", "==", "new"⟩]
  actions := [⟨"x", "deleteFact", "order", "all"⟩]

/-- The same rule with texts that do not. -/
def spilling : LinkedRule where
  rule := ⟨"r", "\"\nwhen\n", "*/", 1⟩
  conditions := [⟨"c", "order.kind", "==", "\""⟩]
  actions := [⟨"x", "deleteFact", "order", "all"⟩]

/-- **Texts can change the shape in all of these ways.** -/
theorem texts_change_shape :
    (contained.rule.content.description ≠ "" ∧ spilling.rule.content.description ≠ "" ∧
      contained.conditions.length = spilling.conditions.length ∧
      contained.actions.map (·.content.tag) = spilling.actions.map (·.content.tag) ∧
      Text.newlines (generate (some contained)) ≠ Text.newlines (generate (some spilling))) ∧
    (Text.lines (generate (some spilling))).count "when" = 2 ∧
    afterComment? (generate (some spilling)) ≠ some ('\n' ::
      (generate (some spilling.undescribed)).toList.drop Document.preamble.length) ∧
    ¬ IsQuoted ("\"" ++ (Document.ofLinked spilling).name ++ "\"") ∧
    ∃ c ∈ spilling.conditions, (Value.ofLiteral c.content.literal).IsText ∧
      ¬ IsQuoted (Binding.ofCondition c.content).literal := by
  have hquote : ∀ {cs : List Char}, ¬ Settled ('"' :: cs) := by
    rintro cs (_ | ⟨hquote, -, -⟩ | -)
    exact hquote rfl
  refine ⟨⟨by decide, by decide, rfl, rfl, ?_⟩, ?_, ?_, ?_, ?_⟩
  · rw [newlines_generate contained, newlines_generate spilling]
    decide
  · rw [count_generate spilling (by decide)]
    decide
  · rw [Ne, afterComment?_iff (by decide), Classical.not_not]
    exact List.infix_rfl
  · intro h
    exact hquote (isQuoted_iff.mp h)
  · refine ⟨_, List.mem_cons_self, by decide, ?_⟩
    intro h
    have htoken : (Binding.ofCondition ⟨"order.kind", "==", "\""⟩).literal =
        "\"" ++ "\"" ++ "\"" := by decide
    rw [htoken] at h
    exact hquote (isQuoted_iff.mp h)

end Drl

end Rulebook
