import Mathlib.Algebra.GroupWithZero.Nat
import Rulebook.Proofs.Agreement
import Rulebook.Proofs.Lines

/-!
# How the lines of a rule source are woven

A line of a rule source has marks, which are the same in every rule, and authored texts between
them, which may be anything. `Drl.Woven` keeps the two apart, and every line between the keywords is
one (`Drl.Document.lines_eq`). A mark has no newline, and it has a character that no keyword has. So
all newlines of a line are authored, and a line without a mark, a keyword among them, can only lie
within an authored text.
-/

set_option autoImplicit false

namespace Rulebook

theorem Literal.newlines_token (t : String) : Text.newlines (token t) = Text.newlines t := by
  by_cases htext : (Value.ofLiteral t).IsText
  · rw [token_of_isText htext, Text.newlines_append, Text.newlines_append]
    exact Nat.zero_add _
  · rw [token_of_not_isText htext]

theorem Literal.innerLines_token (t : String) : Text.innerLines (token t) = Text.innerLines t := by
  by_cases htext : (Value.ofLiteral t).IsText
  · rw [token_of_isText htext, Text.innerLines_enclosed (by decide) (by decide)]
  · rw [token_of_not_isText htext]

namespace Drl

/-- The words that make up a line of their own. -/
def keywords : List String := ["when", "then", "end"]

/-- Whether a text has no other letters than the keywords. -/
def isBare (s : String) : Bool :=
  s.toList.all fun c => "whentd".toList.contains c

theorem isBare_append (a b : String) : isBare (a ++ b) = (isBare a && isBare b) := by
  unfold isBare
  rw [String.toList_append, List.all_append]

theorem isBare_of_mem_keywords : ∀ w ∈ keywords, isBare w = true := by decide

/-- What the template writes in a line: no newline, and more than the letters of the keywords. -/
structure Mark where
  text : String
  flat : Text.newlines text = 0 := by decide
  marked : isBare text = false := by decide

/-- A line as it is made: marks, each with the authored text that follows it. After the last mark
the text runs to the end of the line. -/
structure Woven where
  parts : List (Mark × String)
  last : Mark
  tail : String

namespace Woven

/-- The text of marks with authored texts after them, up to some rest of a line. -/
def join (parts : List (Mark × String)) (rest : String) : String :=
  match parts with
  | [] => rest
  | (m, t) :: parts => m.text ++ (t ++ join parts rest)

def text (w : Woven) : String := join w.parts (w.last.text ++ w.tail)

/-- The authored texts that are followed by a mark. -/
def enclosed (w : Woven) : List String := w.parts.map (·.2)

/-- The lines that no mark reaches into. -/
def ownLines (w : Woven) : List String :=
  w.enclosed.flatMap Text.innerLines ++ Text.laterLines w.tail

/-- A line without authored text. -/
def fixed (m : Mark) : Woven := ⟨[], m, ""⟩

/-- A line that a mark ends. -/
def closed (parts : List (Mark × String)) (m : Mark) : Woven := ⟨parts, m, ""⟩

/-- A line that an authored text ends. -/
def openEnded (m : Mark) (t : String) : Woven := ⟨[], m, t⟩

/-! ## What a woven line has of the texts in it -/

theorem newlines_join (parts : List (Mark × String)) (rest : String) :
    Text.newlines (join parts rest) =
      ((parts.map (·.2)).map Text.newlines).sum + Text.newlines rest := by
  induction parts with
  | nil => rw [join, List.map_nil, List.map_nil, List.sum_nil, Nat.zero_add]
  | cons p parts ih =>
    rw [join, Text.newlines_append, Text.newlines_append, p.1.flat, ih, Nat.zero_add, List.map_cons,
      List.map_cons, List.sum_cons, Nat.add_assoc]

/-- All newlines of a line are authored. -/
theorem newlines_text (w : Woven) :
    Text.newlines w.text = (w.enclosed.map Text.newlines).sum + Text.newlines w.tail := by
  rw [text, newlines_join, Text.newlines_append, w.last.flat, Nat.zero_add, enclosed]

/-- A text starts on a line that has a mark, and its later lines are given up to lines with marks.
-/
def Starts (s : String) (own : List String) : Prop :=
  ∃ first after, Text.lines s = first :: after ∧ isBare first = false ∧
    after.filter isBare = own.filter isBare

theorem Starts.filter_lines {s : String} {own : List String} (h : Starts s own) :
    (Text.lines s).filter isBare = own.filter isBare := by
  obtain ⟨first, after, hlines, hmarked, hafter⟩ := h
  rw [hlines, List.filter_cons_of_neg (by simp [hmarked]), hafter]

theorem starts_tail (m : Mark) (t : String) : Starts (m.text ++ t) (Text.laterLines t) := by
  obtain ⟨first, ht⟩ := Text.exists_lines_eq_cons t
  refine ⟨m.text ++ first, Text.laterLines t, Text.lines_append_of_flat m.flat ht, ?_, rfl⟩
  rw [isBare_append, m.marked, Bool.false_and]

/-- **A step along a line.** A text between two marks adds the lines that lie within it: its first
line begins with the one mark, and its last one ends with the other. -/
theorem Starts.weave {s : String} {own : List String} (m : Mark) (t : String) (h : Starts s own) :
    Starts (m.text ++ (t ++ s)) (Text.innerLines t ++ own) := by
  obtain ⟨first, after, hs, hmarked, hafter⟩ := h
  obtain ⟨last, ht⟩ := Text.exists_lines_eq_concat t
  have hts := Text.lines_append ht hs
  have hlast : isBare (last ++ first) = false := by rw [isBare_append, hmarked, Bool.and_false]
  rw [Text.innerLines_eq]
  cases hbefore : (Text.lines t).dropLast with
  | nil =>
    -- The text is all on one line, between both marks.
    rw [hbefore, List.nil_append] at hts
    refine ⟨m.text ++ (last ++ first), after, Text.lines_append_of_flat m.flat hts, ?_, hafter⟩
    rw [isBare_append, hlast, Bool.and_false]
  | cons start middle =>
    -- Its first line has the one mark, its last one the other, and those in the middle have none.
    rw [hbefore, List.cons_append] at hts
    refine ⟨m.text ++ start, _, Text.lines_append_of_flat m.flat hts, ?_, ?_⟩
    · rw [isBare_append, m.marked, Bool.false_and]
    · rw [List.tail_cons, List.filter_append, List.filter_append,
        List.filter_cons_of_neg (by simp [hlast]), hafter]

/-- **Along the whole line.** -/
theorem starts_text (w : Woven) : Starts w.text w.ownLines := by
  obtain ⟨parts, last, tail⟩ := w
  induction parts with
  | nil => exact starts_tail last tail
  | cons p parts ih =>
    have hstep := ih.weave p.1 p.2
    rw [ownLines, ← List.append_assoc] at hstep
    exact hstep

/-- The lines of a woven line that have no mark are authored. -/
theorem filter_lines (w : Woven) :
    (Text.lines w.text).filter isBare = w.ownLines.filter isBare :=
  w.starts_text.filter_lines

theorem isBare_text (w : Woven) : isBare w.text = false := by
  obtain ⟨parts, last, tail⟩ := w
  cases parts with
  | nil =>
    show isBare (last.text ++ tail) = false
    rw [isBare_append, last.marked, Bool.false_and]
  | cons p parts =>
    show isBare (p.1.text ++ _) = false
    rw [isBare_append, p.1.marked, Bool.false_and]

end Woven

/-! ## The lines of a rule source -/

def Binding.woven (b : Binding) : Woven :=
  .closed [({ text := indent ++ "$" }, b.object),
    ({ text := " : " }, Text.capitalizeFirst b.object),
    ({ text := "(" }, b.property), ({ text := " " }, b.operator), ({ text := " " }, b.literal)]
    { text := ")" }

theorem Binding.line_eq (b : Binding) : b.line = b.woven.text := by
  simp [line, woven, Woven.closed, Woven.text, Woven.join, String.append_assoc]

def Statement.woven : Statement → List Woven
  | .setProperty object property literal =>
    [.closed [({ text := indent ++ "$" }, object),
      ({ text := ".set" }, Text.capitalizeFirst property),
      ({ text := "(" }, literal)] { text := ");" }]
  | .callMethod object method =>
    [.closed [({ text := indent ++ "$" }, object), ({ text := "." }, method)] { text := "();" }]
  | .insertNew type =>
    [.closed [({ text := indent ++ "insert(new " }, Text.capitalizeFirst type)] { text := "());" }]
  | .delete object => [.closed [({ text := indent ++ "delete($" }, object)] { text := ");" }]
  | .modify object property literal =>
    [.closed [({ text := indent ++ "modify($" }, object)] { text := ") \x7b" },
      .closed [({ text := indent ++ indent ++ "set" }, Text.capitalizeFirst property),
        ({ text := "(" }, literal)] { text := ")" },
      .fixed { text := indent ++ "\x7d" }]
  | .unknown tag => [.openEnded { text := indent ++ "// Unknown action type: " } tag]

theorem Statement.lines_eq (s : Statement) : s.lines = s.woven.map Woven.text := by
  cases s <;>
    simp [lines, woven, Woven.closed, Woven.openEnded, Woven.fixed, Woven.text, Woven.join,
      String.append_assoc]

namespace Document

/-- The line of the salience. -/
def salienceMark (n : Int) : Mark where
  text := indent ++ "salience " ++ toString n
  flat := by
    rw [Text.newlines_append, Text.newlines_toString]
    decide
  marked := by
    rw [isBare_append, show isBare (indent ++ "salience ") = false by decide, Bool.false_and]

/-- The lines before the patterns. -/
def header (d : Document) : List Woven :=
  (if d.description = "" then []
    else [.fixed { text := "/**" }, .openEnded { text := " * " } d.description,
      .fixed { text := " */" }]) ++
  [.closed [({ text := "rule \"" }, d.name)] { text := "\"" }, .fixed (salienceMark d.salience)]

/-- The lines of the patterns, or a remark that there are none. -/
def patterns (d : Document) : List Woven :=
  if d.bindings.isEmpty then [.fixed { text := indent ++ "// No conditions defined" }]
  else d.bindings.map (·.woven)

/-- The lines of the statements, or a remark that there are none. -/
def effects (d : Document) : List Woven :=
  if d.statements.isEmpty then [.fixed { text := indent ++ "// No actions defined" }]
  else d.statements.flatMap (·.woven) ++
    [.closed [({ text := indent ++ "update($" }, d.updated)] { text := ");" }]

theorem whenLines_eq (d : Document) : d.whenLines = d.patterns.map Woven.text := by
  unfold whenLines patterns
  split_ifs
  · rfl
  · rw [List.map_map]
    exact List.map_congr_left fun b _ => b.line_eq

theorem thenLines_eq (d : Document) : d.thenLines = d.effects.map Woven.text := by
  unfold thenLines effects
  split_ifs
  · rfl
  · rw [List.map_append, List.map_flatMap]
    simp only [Statement.lines_eq]
    simp [Woven.closed, Woven.text, Woven.join, String.append_assoc]

/-- **The lines between the keywords are woven.** -/
theorem lines_eq (d : Document) :
    d.lines = d.header.map Woven.text ++ "when" :: (d.patterns.map Woven.text ++
      "then" :: (d.effects.map Woven.text ++ ["end"])) := by
  have hheader : d.commentLines ++
      ["rule \"" ++ d.name ++ "\"", indent ++ "salience " ++ toString d.salience] =
        d.header.map Woven.text := by
    unfold commentLines header
    split_ifs <;> simp [Woven.fixed, Woven.openEnded, Woven.closed, Woven.text, Woven.join,
      salienceMark, String.append_assoc]
  unfold lines
  rw [← hheader, ← whenLines_eq, ← thenLines_eq]
  simp

/-- All lines but those of the keywords. -/
def woven (d : Document) : List Woven :=
  d.header ++ d.patterns ++ d.effects

theorem lines_perm (d : Document) : d.lines.Perm (keywords ++ d.woven.map Woven.text) := by
  -- Only the order is different, so it is enough to count each line.
  rw [List.perm_iff_count]
  intro l
  rw [lines_eq]
  simp only [woven, keywords, List.map_append, List.count_append, List.count_cons, List.count_nil]
  omega

/-- The lines that every rule source starts with. -/
def preambleLines : List String :=
  ["package com.example.rules;", "", "import java.util.*;", "import java.math.*;", ""]

theorem lines_text (d : Document) :
    Text.lines d.text = preambleLines ++ (d.lines.flatMap Text.lines ++ [""]) := by
  have hne : d.lines ≠ [] := by
    rw [lines_eq]
    simp
  have hpreamble : preamble = String.intercalate "\n" preambleLines ++ "\n" := by decide
  have hstart : Text.lines (String.intercalate "\n" preambleLines) = preambleLines := by decide
  have hend := Text.lines_newline (String.intercalate "\n" d.lines) ""
  rw [String.append_empty, Text.lines_intercalate hne] at hend
  rw [text, String.append_assoc, hpreamble, Text.lines_newline, hstart, hend]
  rfl

end Document

end Drl

end Rulebook
