import Mathlib.Algebra.Order.Field.Power
import Mathlib.Algebra.Order.Ring.Rat
import Mathlib.Tactic.NormNum
import Rulebook.Drawing

/-!
# How large the numbers are that come from doubles

A finite double lies below `2 ^ 1024`, so a whole number that is made from one has at most 309
digits. A priority always is: whatever is given for it goes through a double. So it can be written
out, which is not true of integers in general.
-/

set_option autoImplicit false

namespace Rulebook

namespace Double

/-- Every finite double is below `2 ^ 1024` in absolute value. -/
theorem magnitude_lt {m : Nat} {e : Int} (h : Canonical m e) :
    magnitude m e < (2 : Rat) ^ 1024 := by
  obtain ⟨hm, -, he, -⟩ := h
  have hmantissa : (m : Rat) < (2 : Rat) ^ 53 := by
    rw [← Nat.cast_ofNat, ← Nat.cast_pow]
    exact Nat.cast_lt.mpr hm
  -- 53 bits of mantissa above the highest exponent make 1024 bits.
  have hpower : (2 : Rat) ^ e ≤ (2 : Rat) ^ 971 := by
    rw [← zpow_natCast]
    exact zpow_le_zpow_right₀ one_le_two he
  calc
    magnitude m e = (m : Rat) * (2 : Rat) ^ e := rfl
    _ ≤ (m : Rat) * (2 : Rat) ^ 971 := mul_le_mul_of_nonneg_left hpower m.cast_nonneg
    _ < (2 : Rat) ^ 53 * (2 : Rat) ^ 971 :=
      mul_lt_mul_of_pos_right hmantissa (pow_pos two_pos 971)
    _ = (2 : Rat) ^ 1024 := by rw [← pow_add]

theorem magnitude_nonneg (m : Nat) (e : Int) : 0 ≤ magnitude m e :=
  mul_nonneg m.cast_nonneg (zpow_nonneg two_pos.le e)

theorem toRat?_range {d : Double} {q : Rat} (h : d.toRat? = some q) :
    -(2 : Rat) ^ 1024 < q ∧ q < (2 : Rat) ^ 1024 := by
  cases d with
  | nan => simp [toRat?] at h
  | infinity negative => simp [toRat?] at h
  | finite negative m e hcanonical =>
    have hlt := magnitude_lt hcanonical
    have hnonneg := magnitude_nonneg m e
    cases negative with
    | false =>
      obtain rfl : magnitude m e = q := by simpa [toRat?] using h
      exact ⟨(neg_neg_of_pos (pow_pos two_pos 1024)).trans_le hnonneg, hlt⟩
    | true =>
      obtain rfl : -magnitude m e = q := by simpa [toRat?] using h
      exact ⟨neg_lt_neg hlt, (neg_nonpos.mpr hnonneg).trans_lt (pow_pos two_pos 1024)⟩

theorem natAbs_floor_lt {q : Rat} {bound : Nat} (hq : 0 ≤ q) (h : q < (bound : Rat)) :
    q.floor.natAbs < bound := by
  have hnonneg : 0 ≤ q.floor := Rat.le_floor_iff.mpr (by simpa using hq)
  have hlt : q.floor < (bound : Int) := Rat.floor_lt_iff.mpr (by simpa using h)
  omega

/-- A double without its fraction is a whole number of at most 1024 bits. -/
theorem natAbs_truncate?_lt {d : Double} {n : Int} (h : d.truncate? = some n) :
    n.natAbs < 2 ^ 1024 := by
  obtain ⟨q, hq, rfl⟩ := Option.map_eq_some_iff.mp h
  obtain ⟨hlow, hhigh⟩ := toRat?_range hq
  have hcast : ((2 ^ 1024 : Nat) : Rat) = (2 : Rat) ^ 1024 := by
    rw [Nat.cast_pow, Nat.cast_ofNat]
  -- What is negative is rounded towards zero by way of its opposite.
  by_cases hneg : q < 0
  · rw [if_pos hneg, Int.natAbs_neg]
    exact natAbs_floor_lt (neg_nonneg.mpr hneg.le) (by rw [hcast]; exact neg_lt.mp hlow)
  · rw [if_neg hneg]
    exact natAbs_floor_lt (not_lt.mp hneg) (by rw [hcast]; exact hhigh)

end Double

theorem two_pow_lt_digitBound : 2 ^ 1024 < digitBound := by
  have hlt : 1024 < 4300 := by decide
  generalize 1024 = bits at hlt ⊢
  exact Nat.lt_of_le_of_lt (Nat.pow_le_pow_left (by decide) bits) (pow_lt_digitBound hlt)

namespace Value

/-- **A priority can be written out,** whatever was given for it. -/
theorem natAbs_priority_lt (v : Value) : v.priority.natAbs < digitBound := by
  have hbound : ∀ d : Double, (d.truncate?.getD 0).natAbs < digitBound := by
    intro d
    cases h : d.truncate? with
    | none => exact Nat.lt_of_le_of_lt (Nat.zero_le _) two_pow_lt_digitBound
    | some n => exact (Double.natAbs_truncate?_lt h).trans two_pow_lt_digitBound
  exact hbound _

end Value

end Rulebook
