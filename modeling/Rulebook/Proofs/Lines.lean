import Mathlib.Data.List.TakeWhile
import Rulebook.Text.Case

/-!
# The lines of a text

A text is cut into lines at its newlines, so it has one line more than it has newlines, and a text
that ends with a newline has an empty last line. Joining two texts joins the last line of the one to
the first line of the other and leaves all other lines alone (`lines_append`); everything else about
lines follows from that.

Capitalising touches the first character only, and no letter becomes a newline or ceases to be one,
so it changes nothing about the lines but how the first one starts.
-/

set_option autoImplicit false

namespace Rulebook.Text

/-- What stands before, between and after the newlines of a text. -/
def lines (s : String) : List String :=
  (s.toList.splitOn '\n').map String.ofList

/-- How many newlines there are in a text. -/
def newlines (s : String) : Nat :=
  s.toList.count '\n'

/-- The lines after the first one. -/
def laterLines (s : String) : List String :=
  (lines s).tail

/-- The lines between the first and the last one: those that lie between two newlines. -/
def innerLines (s : String) : List String :=
  (laterLines s).dropLast

section Cutting

variable {a b s first last : String} {before after : List String}

theorem splitOn_append {α : Type} [BEq α] (sep : α) (xs : List α) {ys first : List α}
    {after : List (List α)} (hys : ys.splitOn sep = first :: after) :
    ∃ before last, xs.splitOn sep = before ++ [last] ∧
      (xs ++ ys).splitOn sep = before ++ (last ++ first) :: after := by
  induction xs with
  | nil => exact ⟨[], [], List.splitOn_nil sep, hys⟩
  | cons x xs ih =>
    obtain ⟨before, last, hxs, hjoined⟩ := ih
    rw [List.cons_append, List.splitOn_cons_eq_if_modifyHead, List.splitOn_cons_eq_if_modifyHead,
      hxs, hjoined]
    split_ifs with hx
    · exact ⟨[] :: before, last, rfl, rfl⟩
    · -- What is not a separator goes to the first part, which may be the last one too.
      cases before with
      | nil => exact ⟨[], x :: last, rfl, rfl⟩
      | cons l before => exact ⟨(x :: l) :: before, last, rfl, rfl⟩

/-- **The lines of two texts in one.** -/
theorem lines_append (ha : lines a = before ++ [last]) (hb : lines b = first :: after) :
    lines (a ++ b) = before ++ (last ++ first) :: after := by
  unfold lines at ha hb ⊢
  obtain ⟨f, t, hcut, rfl, rfl⟩ := List.map_eq_cons_iff.mp hb
  obtain ⟨ls, l, ha', hab⟩ := splitOn_append '\n' a.toList hcut
  rw [ha', List.map_append, List.map_singleton] at ha
  obtain ⟨rfl, hlast⟩ := List.append_inj' ha rfl
  obtain rfl : String.ofList l = last := List.head_eq_of_cons_eq hlast
  rw [String.toList_append, hab, List.map_append, List.map_cons, String.ofList_append]

theorem lines_ne_nil (s : String) : lines s ≠ [] := by
  unfold lines
  rw [Ne, List.map_eq_nil_iff]
  exact List.splitOn_ne_nil '\n' s.toList

theorem exists_lines_eq_cons (s : String) : ∃ first, lines s = first :: laterLines s := by
  obtain ⟨first, after, h⟩ := List.exists_cons_of_ne_nil (lines_ne_nil s)
  exact ⟨first, by rw [laterLines, h]; rfl⟩

theorem exists_lines_eq_concat (s : String) :
    ∃ last, lines s = (lines s).dropLast ++ [last] :=
  ⟨_, (List.dropLast_concat_getLast (lines_ne_nil s)).symm⟩

theorem innerLines_eq (s : String) : innerLines s = (lines s).dropLast.tail := by
  rw [innerLines, laterLines, List.tail_dropLast]

theorem lines_of_flat (h : newlines s = 0) : lines s = [s] := by
  unfold lines
  rw [List.splitOn_eq_singleton (List.count_eq_zero.mp h), List.map_singleton, String.ofList_toList]

theorem length_lines (s : String) : (lines s).length = newlines s + 1 := by
  unfold lines newlines
  rw [List.length_map]
  induction s.toList with
  | nil => rfl
  | cons c cs ih =>
    rw [List.splitOn_cons_eq_if_modifyHead, List.count_cons]
    split_ifs with hc
    · rw [List.length_cons, ih]
    · rw [List.length_modifyHead, ih]

/-- A newline ends a line and begins another. -/
theorem lines_newline (a b : String) : lines (a ++ "\n" ++ b) = lines a ++ lines b := by
  unfold lines
  rw [String.toList_append, String.toList_append, List.append_assoc,
    show "\n".toList = ['\n'] from rfl, List.singleton_append, List.splitOn_append_cons_self,
    List.map_append]

/-- What comes before the first newline of a text does not matter for its later lines. -/
theorem lines_append_of_flat (ha : newlines a = 0) (hb : lines b = first :: after) :
    lines (a ++ b) = (a ++ first) :: after := by
  have hself : lines a = [] ++ [a] := lines_of_flat ha
  exact lines_append hself hb

theorem laterLines_append_of_flat (ha : newlines a = 0) (b : String) :
    laterLines (a ++ b) = laterLines b := by
  obtain ⟨first, hb⟩ := exists_lines_eq_cons b
  rw [laterLines, lines_append_of_flat ha hb, List.tail_cons]

theorem newlines_ofList_eq_zero {cs : List Char} (h : '\n' ∉ cs) :
    newlines (String.ofList cs) = 0 := by
  rw [newlines, String.toList_ofList]
  exact List.count_eq_zero.mpr h

@[simp] theorem newlines_empty : newlines "" = 0 := rfl

theorem newlines_append (a b : String) : newlines (a ++ b) = newlines a + newlines b := by
  unfold newlines
  rw [String.toList_append, List.count_append]

/-- What is put around a text on the same lines does not matter for its inner lines. -/
theorem innerLines_enclosed (ha : newlines a = 0) (hb : newlines b = 0) (s : String) :
    innerLines (a ++ s ++ b) = innerLines s := by
  obtain ⟨last, hs⟩ := exists_lines_eq_concat s
  rw [String.append_assoc, innerLines, laterLines_append_of_flat ha, ← innerLines, innerLines_eq,
    lines_append hs (lines_of_flat hb), List.dropLast_concat, innerLines_eq]

theorem lines_intercalate {ls : List String} (h : ls ≠ []) :
    lines (String.intercalate "\n" ls) = ls.flatMap lines := by
  induction ls with
  | nil => exact absurd rfl h
  | cons l ls ih =>
    by_cases hls : ls = []
    · rw [hls, String.intercalate_singleton, List.flatMap_singleton]
    · rw [String.intercalate_cons_of_ne_nil hls, lines_newline, ih hls, List.flatMap_cons]

theorem newlines_toString (n : Int) : newlines (toString n) = 0 := by
  have hrepr : ∀ k : Nat, newlines k.repr = 0 := by
    intro k
    rw [Nat.repr_eq_ofList_toDigits]
    apply newlines_ofList_eq_zero
    intro h
    exact absurd (Nat.isDigit_of_mem_toDigits (by decide) (by decide) h) (by decide)
  cases n with
  | ofNat k => exact hrepr k
  | negSucc k =>
    show newlines ("-" ++ k.succ.repr) = 0
    rw [newlines_append, hrepr]
    decide

end Cutting

/-! ## Capitals -/

/-- No code point but that of a newline has one in its upper case. -/
theorem newline_not_mem_upperCodes {n : Nat} (h : n ≠ 10) : 10 ∉ upperCodes n := by
  have hlong : (longUppers.all fun p => !p.2.contains 10) = true := by
    rw [← Array.all_toList]
    rfl
  have hruns : (upperRuns.all fun r => decide (10 < (r.first : Int) + r.shift)) = true := by
    rw [← Array.all_toList]
    decide
  unfold upperCodes
  split_ifs with hascii hlower
  · simp only [Bool.and_eq_true, decide_eq_true_eq] at hlower
    rw [List.mem_singleton]
    omega
  · simpa using h.symm
  · -- Beyond ASCII a few code points have several capitals, and the others are found in runs.
    split
    · next codes hfound =>
      have hmem := Array.all_eq_true'.mp hlong _ (Array.mem_of_find?_eq_some hfound)
      simpa using hmem
    · rw [List.mem_singleton]
      unfold CaseRun.image?
      cases hrun : upperRuns.find? (·.covers n) with
      | none => simpa using h.symm
      | some r =>
        have hmem := Array.all_eq_true'.mp hruns _ (Array.mem_of_find?_eq_some hrun)
        have hcovers := Array.find?_some hrun
        simp only [CaseRun.covers, Bool.and_eq_true, decide_eq_true_eq] at hmem hcovers
        rw [Option.map_some, Option.getD_some]
        omega

theorem newline_not_mem_upper {c : Char} (h : c ≠ '\n') : '\n' ∉ upper c := by
  intro hmem
  obtain ⟨n, hn, hchar⟩ := List.mem_map.mp hmem
  have hten : n = 10 := by
    by_cases hvalid : n.isValidChar
    · have hof : Char.ofNat n = Char.ofNatAux n hvalid := dif_pos hvalid
      exact congrArg Char.toNat (hof.symm.trans hchar)
    · have hof : Char.ofNat n = '\x00' := dif_neg hvalid
      exact absurd (hof.symm.trans hchar) (by decide)
  exact newline_not_mem_upperCodes (fun hc => h (Char.ext (UInt32.toNat_inj.mp hc))) (hten ▸ hn)

/-- So capitalising keeps all lines after the first one. -/
theorem laterLines_capitalizeFirst (s : String) :
    laterLines (capitalizeFirst s) = laterLines s := by
  cases hs : s.toList with
  | nil => rw [capitalizeFirst, hs]
  | cons c cs =>
    have hcapital : capitalizeFirst s = String.ofList (upper c) ++ String.ofList cs := by
      rw [capitalizeFirst, hs, ← String.ofList_append]
    have hself : s = String.ofList [c] ++ String.ofList cs := by
      rw [← String.ofList_append, List.singleton_append, ← hs, String.ofList_toList]
    by_cases hc : c = '\n'
    · have hsame : upper '\n' = ['\n'] := by decide
      rw [hcapital, hc, hsame, ← hc, ← hself]
    · -- The first line starts differently, and the rest is cut as it was.
      have hupper : newlines (String.ofList (upper c)) = 0 :=
        newlines_ofList_eq_zero (newline_not_mem_upper hc)
      have hsingle : newlines (String.ofList [c]) = 0 :=
        newlines_ofList_eq_zero fun h => hc (List.mem_singleton.mp h).symm
      rw [hcapital, laterLines_append_of_flat hupper, ← laterLines_append_of_flat hsingle, ← hself]

theorem newlines_eq_length (s : String) : newlines s = (laterLines s).length := by
  rw [laterLines, List.length_tail, length_lines, Nat.add_sub_cancel]

theorem newlines_capitalizeFirst (s : String) : newlines (capitalizeFirst s) = newlines s := by
  rw [newlines_eq_length, newlines_eq_length, laterLines_capitalizeFirst]

end Rulebook.Text
