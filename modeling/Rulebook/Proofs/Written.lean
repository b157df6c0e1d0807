import Mathlib.Algebra.Order.Field.Power
import Mathlib.Algebra.Order.Ring.Rat
import Mathlib.Data.List.Induction
import Mathlib.Data.List.TakeWhile
import Mathlib.Tactic.Linarith
import Mathlib.Tactic.Ring
import Rulebook.Number.Layout
import Rulebook.Proofs.Spelling

/-!
# What is written is a numeral

Whole numbers, and digits with a place of the point, are written in ways that the grammar of
numerals knows. `Numeral.exists_run_toDigits` says so of the digits of a whole number.
`Layout.write_spellsMagnitude` says so of layouts, that of displayed numbers among them: wherever
the point is, in front of the digits, among them, behind them or too far away to be written, what
is written denotes the number that the digits and the place of the point stand for.

A layout never fills in digits other than zeros, and `Text.ofDigits_append` says what those do to
the number: in front nothing, and behind as many powers of ten.
-/

set_option autoImplicit false

namespace Rulebook

/-! ## The value of digits -/

namespace Text

theorem ofDigits_concat (base : Nat) (ds : List Nat) (d : Nat) :
    ofDigits base (ds ++ [d]) = ofDigits base ds * base + d := by
  rw [ofDigits, List.foldl_append, List.foldl_cons, List.foldl_nil, ofDigits]

/-- Digits in front count by as many powers of the base as digits follow. -/
theorem ofDigits_append (base : Nat) (ds es : List Nat) :
    ofDigits base (ds ++ es) = ofDigits base ds * base ^ es.length + ofDigits base es := by
  induction es using List.reverseRecOn with
  | nil => simp [ofDigits]
  | append_singleton es e ih =>
    rw [← List.append_assoc, ofDigits_concat, ofDigits_concat, ih, List.length_append,
      List.length_singleton]
    ring

@[simp] theorem ofDigits_zeros (base k : Nat) : ofDigits base (List.replicate k 0) = 0 := by
  induction k with
  | zero => rfl
  | succ k ih => rw [List.replicate_succ', ofDigits_concat, ih, Nat.zero_mul]

theorem ofDigits_zeros_append (base k : Nat) (ds : List Nat) :
    ofDigits base (List.replicate k 0 ++ ds) = ofDigits base ds := by
  rw [ofDigits_append, ofDigits_zeros, Nat.zero_mul, Nat.zero_add]

theorem ofDigits_append_zeros (base k : Nat) (ds : List Nat) :
    ofDigits base (ds ++ List.replicate k 0) = ofDigits base ds * base ^ k := by
  rw [ofDigits_append, ofDigits_zeros, List.length_replicate, Nat.add_zero]

end Text

namespace Numeral

/-! ## Runs of digits -/

section Runs

variable {value? : Char → Option Nat} {cs es : List Char} {ds fs : List Nat}

theorem Run.append (h : Run value? cs ds) (h' : Run value? es fs) :
    Run value? (cs ++ es) (ds ++ fs) :=
  List.rel_append h h'

theorem run_zeros (k : Nat) :
    Run Text.digitValue? (List.replicate k '0') (List.replicate k 0) := by
  induction k with
  | zero => exact .nil
  | succ k ih => exact .cons rfl ih

theorem Run.exists_append (h : Run value? (cs ++ es) ds) :
    ∃ ds₁ ds₂, ds = ds₁ ++ ds₂ ∧ Run value? cs ds₁ ∧ Run value? es ds₂ := by
  refine ⟨ds.take cs.length, ds.drop cs.length, (List.take_append_drop _ _).symm, ?_, ?_⟩
  · have hstart := List.forall₂_take cs.length h
    rwa [List.take_left] at hstart
  · have hend := List.forall₂_drop cs.length h
    rwa [List.drop_left] at hend

/-- Characters are a run of one list of digits only. -/
theorem Run.unique (h : Run value? cs ds) (h' : Run value? cs fs) : ds = fs :=
  Option.some.inj ((run_iff_mapM.mpr h).symm.trans (run_iff_mapM.mpr h'))

/-- A whole number is written in digits that it is the value of. -/
theorem exists_run_toDigits (n : Nat) :
    ∃ ds, ds ≠ [] ∧ Run Text.digitValue? (Nat.toDigits 10 n) ds ∧ Text.ofDigits 10 ds = n := by
  have hdigit : ∀ d < 10, Text.digitValue? (Nat.digitChar d) = some d := by decide
  induction n using Nat.strongRecOn with
  | ind n ih =>
    by_cases hsmall : n < 10
    · refine ⟨[n], List.cons_ne_nil _ _, ?_, Nat.zero_add n⟩
      rw [Nat.toDigits_of_lt_base hsmall]
      exact .cons (hdigit n hsmall) .nil
    · obtain ⟨ds, -, hrun, hvalue⟩ := ih (n / 10) (by omega)
      refine ⟨ds ++ [n % 10], by simp, ?_, ?_⟩
      · rw [Nat.toDigits_of_base_le (by decide) (Nat.le_of_not_lt hsmall)]
        exact hrun.append (.cons (hdigit _ (Nat.mod_lt n (by decide))) .nil)
      · rw [Text.ofDigits_concat, hvalue]
        omega

end Runs

/-! ## Numerals without a sign -/

/-- Places and an exponent, and the number that they denote. -/
def SpellsMagnitude (s : List Char) (q : Rat) : Prop :=
  ∃ cs after ds fs x, s = cs ++ after ∧ Places cs ds fs ∧ Exponent after x ∧
    (Text.ofDigits 10 (ds ++ fs) : Rat) * 10 ^ (x - (fs.length : Int)) = q

/-- With a sign in front they are a decimal numeral. -/
theorem SpellsMagnitude.decimal {s before : List Char} {q : Rat} {negative : Bool}
    (h : SpellsMagnitude s q) (hsign : Sign before negative) :
    ∃ d : Decimal, SpellsDecimal (before ++ s) d ∧ d.negative = negative ∧ d.magnitude = q := by
  obtain ⟨cs, after, ds, fs, x, rfl, hplaces, hexponent, hvalue⟩ := h
  exact ⟨_, .mk hsign hplaces hexponent, rfl, hvalue⟩

end Numeral

/-! ## Digits of a decimal -/

namespace Decimal

/-- The digits of a decimal are those that are kept and the zeros that are dropped. -/
theorem dropTrailingZeros_append (ds : List Char) :
    (dropTrailingZeros ds).1 ++ List.replicate (dropTrailingZeros ds).2 '0' = ds := by
  have hzeros : ds.reverse.takeWhile (· == '0') =
      List.replicate (ds.reverse.takeWhile (· == '0')).length '0' := by
    refine List.eq_replicate_of_mem fun c hc => ?_
    simpa using List.mem_takeWhile_imp hc
  have hsplit := List.takeWhile_append_dropWhile (p := (· == '0')) (l := ds.reverse)
  have hlength := congrArg List.length hsplit
  rw [List.length_append, List.length_reverse] at hlength
  unfold dropTrailingZeros
  dsimp only
  rw [List.length_reverse, ← hlength, Nat.add_sub_cancel, ← List.reverse_inj, List.reverse_append,
    List.reverse_reverse, List.reverse_replicate, ← hzeros, hsplit]

theorem getLast?_dropTrailingZeros (ds : List Char) :
    (dropTrailingZeros ds).1.getLast? ≠ some '0' := by
  have hfirst := List.head?_dropWhile_not (· == '0') ds.reverse
  unfold dropTrailingZeros
  dsimp only
  rw [List.getLast?_reverse]
  intro hzero
  rw [hzero] at hfirst
  exact absurd hfirst (by decide)

end Decimal

namespace Double.Digits

/-- Of a decimal the digits up to the last one that is not zero are kept. -/
theorem exists_ofDecimal (d : Decimal) :
    ∃ (kept : List Char) (dropped : Nat),
      kept ++ List.replicate dropped '0' = Nat.toDigits 10 d.coefficient ∧
        kept.getLast? ≠ some '0' ∧
        Digits.ofDecimal d = ⟨kept, (kept.length : Int) + d.exponent + dropped⟩ :=
  ⟨_, _, (Decimal.dropTrailingZeros_append d.digits).trans Nat.toList_repr,
    Decimal.getLast?_dropTrailingZeros d.digits, rfl⟩

/-- Digits with a place of the point, and the number that they stand for. -/
def Denotes (d : Digits) (q : Rat) : Prop :=
  ∃ ds, ds ≠ [] ∧ Numeral.Run Text.digitValue? d.text ds ∧
    (Text.ofDigits 10 ds : Rat) * 10 ^ (d.point - (d.text.length : Int)) = q

/-- The digits that are kept of a decimal other than zero stand for it. -/
theorem ofDecimal_denotes {d : Decimal} (hd : d.coefficient ≠ 0) :
    (Digits.ofDecimal d).Denotes d.magnitude := by
  obtain ⟨kept, dropped, hdigits, -, hshown⟩ := exists_ofDecimal d
  obtain ⟨ds, -, hrun, hvalue⟩ := Numeral.exists_run_toDigits d.coefficient
  rw [← hdigits] at hrun
  obtain ⟨ks, zeros, rfl, hkept, hzeros⟩ := hrun.exists_append
  rw [hzeros.unique (Numeral.run_zeros _), Text.ofDigits_append_zeros] at hvalue
  rw [hshown]
  refine ⟨ks, ?_, hkept, ?_⟩
  · rintro rfl
    exact hd (by rw [← hvalue]; exact Nat.zero_mul _)
  · have hpoint : (kept.length : Int) + d.exponent + dropped - kept.length =
        dropped + d.exponent := by omega
    dsimp only
    rw [hpoint, zpow_add₀ (by norm_num), zpow_natCast, ← mul_assoc, Decimal.magnitude, ← hvalue]
    push_cast
    rfl

end Double.Digits

/-! ## Layouts -/

namespace Layout

/-- A number that is filled up with zeros keeps its value. -/
theorem exists_run_padded (width n : Nat) :
    ∃ ds, ds ≠ [] ∧ Numeral.Run Text.digitValue? (padded width n) ds ∧ Text.ofDigits 10 ds = n := by
  obtain ⟨ds, hne, hrun, hvalue⟩ := Numeral.exists_run_toDigits n
  have hdigits : (toString n).toList = Nat.toDigits 10 n := Nat.toList_repr
  unfold padded
  rw [hdigits]
  exact ⟨_, by simp [hne], (Numeral.run_zeros _).append hrun,
    (Text.ofDigits_zeros_append _ _ _).trans hvalue⟩

theorem exponent_exponentText (layout : Layout) (power : Int) :
    Numeral.Exponent ('e' :: layout.exponentText power) power := by
  obtain ⟨ds, hne, hrun, hvalue⟩ := exists_run_padded layout.exponentWidth power.natAbs
  unfold exponentText
  split_ifs with hnegative
  · have h := Numeral.Exponent.given (.inl rfl) .minus hne hrun
    rw [if_pos rfl, hvalue] at h
    rwa [show -(power.natAbs : Int) = power by omega] at h
  · have h := Numeral.Exponent.given (.inl rfl) .plus hne hrun
    rw [if_neg Bool.false_ne_true, hvalue] at h
    rwa [show (power.natAbs : Int) = power by omega] at h

section Places

variable {cs : List Char} {ds : List Nat} (hrun : Numeral.Run Text.digitValue? cs ds)
include hrun

/-- A point and a zero behind a whole number say nothing more. -/
theorem spellsMagnitude_whole (hne : ds ≠ []) (k : Nat) {suffix : List Char}
    (hsuffix : suffix = [] ∨ suffix = ['.', '0']) :
    Numeral.SpellsMagnitude (cs ++ List.replicate k '0' ++ suffix)
      ((Text.ofDigits 10 ds : Rat) * 10 ^ (k : Int)) := by
  have hwhole : Numeral.Run Text.digitValue? (cs ++ List.replicate k '0')
      (ds ++ List.replicate k 0) := hrun.append (Numeral.run_zeros k)
  have hdigits : ds ++ List.replicate k 0 ≠ [] := by simp [hne]
  rcases hsuffix with rfl | rfl
  · refine ⟨_, [], _, [], 0, rfl, .whole hdigits hwhole, .none, ?_⟩
    rw [List.append_nil, Text.ofDigits_append_zeros, zpow_natCast]
    simp
  · have hzero : Numeral.Run Text.digitValue? ['0'] [0] := Numeral.run_zeros 1
    refine ⟨_, [], _, [0], 0, (List.append_nil _).symm, .pointed hdigits hwhole hzero, .none, ?_⟩
    rw [Text.ofDigits_concat, Nat.add_zero, Text.ofDigits_append_zeros, zpow_natCast]
    simp

theorem spellsMagnitude_among (hne : ds ≠ []) {n : Nat} (hn : 0 < n) :
    Numeral.SpellsMagnitude (cs.take n ++ '.' :: cs.drop n)
      ((Text.ofDigits 10 ds : Rat) * 10 ^ (-((cs.length - n : Nat) : Int))) := by
  refine ⟨_, [], ds.take n, ds.drop n, 0, (List.append_nil _).symm,
    .pointed ?_ (List.forall₂_take n hrun) (List.forall₂_drop n hrun), .none, ?_⟩
  · simp [hne, hn.ne']
  · rw [List.take_append_drop, List.length_drop, hrun.length_eq, zero_sub]

theorem spellsMagnitude_inFront (k : Nat) :
    Numeral.SpellsMagnitude ('0' :: '.' :: (List.replicate k '0' ++ cs))
      ((Text.ofDigits 10 ds : Rat) * 10 ^ (-((k + cs.length : Nat) : Int))) := by
  have hzero : Numeral.Run Text.digitValue? ['0'] [0] := .cons rfl .nil
  refine ⟨_, [], [0], _, 0, (List.append_nil _).symm,
    .pointed (by simp) hzero ((Numeral.run_zeros k).append hrun), .none, ?_⟩
  rw [List.singleton_append, ← List.cons_append, ← List.replicate_succ,
    Text.ofDigits_zeros_append, List.length_append, List.length_replicate, hrun.length_eq, zero_sub]

end Places

section Write

variable (layout : Layout) (hlead : layout.leadSuffix = "")
include hlead

theorem spellsMagnitude_farAway (power : Int) (cs : List Char) {ds : List Nat} (hne : ds ≠ []) :
    Numeral.Run Text.digitValue? cs ds → Numeral.SpellsMagnitude
      ((match cs with
        | [] => []
        | [c] => c :: layout.leadSuffix.toList
        | c :: rest => c :: '.' :: rest) ++ 'e' :: layout.exponentText power)
      ((Text.ofDigits 10 ds : Rat) * 10 ^ (power + 1 - (cs.length : Int))) := by
  intro hrun
  have hexponent := exponent_exponentText layout power
  cases hrun with
  | nil => exact absurd rfl hne
  | @cons c d cs ds hc hrest =>
    have hdigit : Numeral.Run Text.digitValue? [c] [d] := .cons hc .nil
    cases hrest with
    | nil =>
      rw [hlead]
      exact ⟨[c], _, [d], [], _, rfl, .whole (by simp) hdigit, hexponent, by simp⟩
    | @cons c' d' cs ds hc' hrest =>
      refine ⟨_, _, [d], d' :: ds, _, rfl, .pointed (by simp) hdigit (.cons hc' hrest),
        hexponent, ?_⟩
      rw [List.singleton_append, List.length_cons, List.length_cons, List.length_cons,
        hrest.length_eq]
      congr 2
      push_cast
      ring

/-- **Digits that are laid out denote what they stand for,** wherever the point is. -/
theorem write_spellsMagnitude (hwhole : layout.wholeSuffix = "" ∨ layout.wholeSuffix = ".0")
    {d : Double.Digits} {q : Rat} (h : d.Denotes q) :
    Numeral.SpellsMagnitude (layout.write d) q := by
  have hsuffix : layout.wholeSuffix.toList = [] ∨ layout.wholeSuffix.toList = ['.', '0'] :=
    hwhole.imp (fun h => by rw [h]; rfl) (fun h => by rw [h]; rfl)
  obtain ⟨ds, hne, hrun, rfl⟩ := h
  unfold write
  dsimp only
  split_ifs with hwindow hbehind hamong
  · have hspells := spellsMagnitude_whole hrun hne (d.point - d.text.length).toNat hsuffix
    rwa [Int.toNat_of_nonneg (sub_nonneg.mpr hbehind)] at hspells
  · have hspells := spellsMagnitude_among hrun hne (n := d.point.toNat) (by omega)
    rwa [show -((d.text.length - d.point.toNat : Nat) : Int) = d.point - d.text.length by omega]
      at hspells
  · have hspells := spellsMagnitude_inFront hrun (-d.point).toNat
    rwa [show -(((-d.point).toNat + d.text.length : Nat) : Int) = d.point - d.text.length by omega]
      at hspells
  · have hspells := spellsMagnitude_farAway layout hlead (d.point - 1) d.text hne hrun
    rwa [sub_add_cancel] at hspells

end Write

end Layout

end Rulebook
