import Mathlib.Order.Defs.LinearOrder
import Rulebook.Number.Order

/-!
# The order of numbers

Integers and doubles are compared by their places, and the places are in a linear order: the
rationals in theirs, between the two ends. So the comparisons of numbers have all the laws of a
linear order, as long as both numbers have a place; every comparison with a number that has none is
false.
-/

set_option autoImplicit false

namespace Rulebook

namespace Place

variable {p q r : Place}

theorem le_refl (p : Place) : p.le p = true := by
  cases p with
  | rational q => simp [le]
  | _ => rfl

theorem le_trans (h : p.le q = true) (h' : q.le r = true) : p.le r = true := by
  cases p with
  | bottom => rfl
  | rational x =>
    cases q with
    | bottom => exact nomatch h
    | rational y =>
      cases r with
      | bottom => exact nomatch h'
      | rational z =>
        simp only [le, decide_eq_true_eq] at h h' ⊢
        exact Rat.le_trans h h'
      | top => rfl
    | top =>
      cases r with
      | top => rfl
      | _ => exact nomatch h'
  | top =>
    cases q with
    | top => exact h'
    | _ => exact nomatch h

theorem le_antisymm (h : p.le q = true) (h' : q.le p = true) : p = q := by
  cases p with
  | bottom =>
    cases q with
    | bottom => rfl
    | _ => exact nomatch h'
  | rational x =>
    cases q with
    | rational y =>
      simp only [le, decide_eq_true_eq] at h h'
      exact congrArg rational (Rat.le_antisymm h h')
    | bottom => exact nomatch h
    | top => exact nomatch h'
  | top =>
    cases q with
    | top => rfl
    | _ => exact nomatch h

theorem le_total (p q : Place) : p.le q = true ∨ q.le p = true := by
  cases p with
  | bottom => exact .inl rfl
  | rational x =>
    cases q with
    | bottom => exact .inr rfl
    | rational y => simpa [le] using Rat.le_total
    | top => exact .inl rfl
  | top =>
    cases q with
    | top => exact .inl rfl
    | _ => exact .inr rfl

/-- The order by which numbers are compared is linear. -/
instance : LinearOrder Place where
  le p q := p.le q = true
  lt p q := p.lt q = true
  le_refl := le_refl
  le_trans _ _ _ := le_trans
  le_antisymm _ _ := le_antisymm
  le_total := le_total
  lt_iff_le_not_ge p q := by simp [lt]
  toDecidableLE p q := inferInstanceAs (Decidable (p.le q = true))
  toDecidableEq := inferInstance

end Place

namespace Number

variable {a b c : Number} {p q : Place}

/-! ## Numbers by their places -/

/-- Only one number has no place. -/
theorem place?_eq_none_iff : a.place? = none ↔ a = .double .nan := by
  cases a with
  | int n => simp [place?]
  | double d => cases d <;> simp [place?, Double.place?]

theorem compareBy_eq_true_iff {test : Place → Place → Bool} :
    compareBy test a b = true ↔
      ∃ p q, a.place? = some p ∧ b.place? = some q ∧ test p q = true := by
  unfold compareBy
  cases a.place? with
  | none => simp
  | some p =>
    cases b.place? with
    | none => simp
    | some q => simp

/-- Comparisons with a number that has no place are false. -/
theorem compareBy_of_place?_none (h : a.place? = none) (test : Place → Place → Bool) (b : Number) :
    compareBy test a b = false ∧ compareBy test b a = false := by
  unfold compareBy
  rw [h]
  cases b.place? <;> exact ⟨rfl, rfl⟩

theorem eq_of_place?_none (h : a.place? = none) (b : Number) :
    a.eq b = false ∧ b.eq a = false :=
  compareBy_of_place?_none h _ b

theorem lt_of_place?_none (h : a.place? = none) (b : Number) :
    a.lt b = false ∧ b.lt a = false :=
  compareBy_of_place?_none h _ b

theorem le_of_place?_none (h : a.place? = none) (b : Number) :
    a.le b = false ∧ b.le a = false :=
  compareBy_of_place?_none h _ b

theorem eq_of_places (ha : a.place? = some p) (hb : b.place? = some q) : a.eq b = (p == q) := by
  simp only [eq, compareBy, ha, hb]

theorem lt_of_places (ha : a.place? = some p) (hb : b.place? = some q) : a.lt b = p.lt q := by
  simp only [lt, compareBy, ha, hb]

theorem le_of_places (ha : a.place? = some p) (hb : b.place? = some q) : a.le b = p.le q := by
  simp only [le, compareBy, ha, hb]

/-! ## Laws -/

theorem eq_comm (a b : Number) : a.eq b = b.eq a := by
  cases ha : a.place? with
  | none => rw [(eq_of_place?_none ha b).1, (eq_of_place?_none ha b).2]
  | some p =>
    cases hb : b.place? with
    | none => rw [(eq_of_place?_none hb a).1, (eq_of_place?_none hb a).2]
    | some q => rw [eq_of_places ha hb, eq_of_places hb ha, Bool.beq_comm]

/-- Two numbers are equal when each is at most the other. -/
theorem eq_eq_le_and_le (a b : Number) : a.eq b = (b.le a && a.le b) := by
  cases ha : a.place? with
  | none => rw [(eq_of_place?_none ha b).1, (le_of_place?_none ha b).1, Bool.and_false]
  | some p =>
    cases hb : b.place? with
    | none => rw [(eq_of_place?_none hb a).2, (le_of_place?_none hb a).1, Bool.false_and]
    | some q =>
      rw [eq_of_places ha hb, le_of_places hb ha, le_of_places ha hb, Bool.eq_iff_iff,
        beq_iff_eq, Bool.and_eq_true]
      constructor
      · rintro rfl
        exact ⟨Place.le_refl p, Place.le_refl p⟩
      · rintro ⟨hqp, hpq⟩
        exact Place.le_antisymm hpq hqp

/-- Of two numbers with places one is less, or they are equal, and only one of these. -/
theorem one_of_places (ha : a.place? = some p) (hb : b.place? = some q) :
    [a.lt b, a.eq b, b.lt a].count true = 1 := by
  have hirrefl : ∀ r : Place, ¬ r.lt r = true := fun r => lt_irrefl r
  rw [lt_of_places ha hb, eq_of_places ha hb, lt_of_places hb ha]
  rcases lt_trichotomy p q with h | h | h
  · have hlt : p.lt q = true := h
    have hgt : ¬ q.lt p = true := lt_asymm h
    simp [hlt, hgt, ne_of_lt h]
  · subst h
    simp [hirrefl p]
  · have hgt : q.lt p = true := h
    have hlt : ¬ p.lt q = true := lt_asymm h
    simp [hlt, hgt, ne_of_gt h]

theorem lt_of_lt_of_lt (hab : a.lt b = true) (hbc : b.lt c = true) : a.lt c = true := by
  obtain ⟨p, q, ha, hb, hpq⟩ := compareBy_eq_true_iff.mp hab
  obtain ⟨q', r, hb', hc, hqr⟩ := compareBy_eq_true_iff.mp hbc
  obtain rfl : q = q' := Option.some.inj (hb.symm.trans hb')
  rw [lt_of_places ha hc]
  exact lt_trans (show p < q from hpq) hqr

end Number

end Rulebook
