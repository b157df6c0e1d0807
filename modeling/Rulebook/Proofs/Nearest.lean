import Mathlib.Tactic.Linarith
import Rulebook.Number.Decimal
import Rulebook.Number.Order
import Rulebook.Proofs.Range
import Rulebook.Proofs.Rounding

/-!
# The nearest double

`Double.IsNearest` says of a number and a double that none is nearer, without a word on how it is
found. Rounding finds it (`Double.round_isNearest`), and it is the only one up to the sign of zero
(`Double.IsNearest.place?_eq`): two nearest doubles would both have an even mantissa, and between
two of those there is always another double.

So a double is what the number that it stands for is rounded to, and a decimal is read as the
nearest double, also where its size is estimated instead of its power of ten computed.
-/

set_option autoImplicit false

namespace Rulebook

namespace Double

variable {q : Rat} {m m' : Nat} {e e' : Int} {negative : Bool}

/-! ## Numbers that doubles stand for -/

/-- A number with a sign put before it. -/
def signed (negative : Bool) (q : Rat) : Rat :=
  if negative then -q else q

@[simp] theorem signed_zero (negative : Bool) : signed negative 0 = 0 := by
  cases negative <;> simp [signed]

/-- Two signs make a difference, except to zero. -/
theorem eq_of_signed_eq {negative negative' : Bool} (hq : q ≠ 0)
    (h : signed negative q = signed negative' q) : negative = negative' := by
  cases negative with
  | false =>
    cases negative' with
    | false => rfl
    | true => exact absurd (self_eq_neg.mp h) hq
  | true =>
    cases negative' with
    | false => exact absurd (neg_eq_self.mp h) hq
    | true => rfl

@[simp] theorem signed_signed (negative : Bool) (q : Rat) :
    signed negative (signed negative q) = q := by
  cases negative <;> simp [signed]

@[simp] theorem abs_signed (negative : Bool) (q : Rat) : |signed negative q| = |q| := by
  cases negative <;> simp [signed]

theorem signed_mul (negative : Bool) (q r : Rat) :
    signed negative (q * r) = signed negative q * r := by
  cases negative <;> simp [signed]

/-- A whole number is its absolute value with its sign. -/
theorem signed_natAbs (n : Int) : signed (n < 0) (n.natAbs : Rat) = n := by
  rw [Nat.cast_natAbs, Int.cast_abs]
  by_cases hneg : n < 0
  · rw [decide_eq_true hneg]
    exact neg_eq_iff_eq_neg.mpr (abs_of_neg (Int.cast_lt_zero.mpr hneg))
  · rw [decide_eq_false hneg]
    exact abs_of_nonneg (Int.cast_nonneg (not_lt.mp hneg))

/-- A sign can be taken to the other side of a distance. -/
theorem abs_signed_sub (negative : Bool) (q r : Rat) :
    |signed negative q - r| = |q - signed negative r| := by
  cases negative with
  | false => rfl
  | true =>
    show |-q - r| = |q - -r|
    rw [sub_neg_eq_add, ← abs_neg, neg_sub, sub_neg_eq_add, add_comm]

/-- The numbers that finite doubles stand for. -/
def Representable (r : Rat) : Prop :=
  ∃ d : Double, d.toRat? = some r

theorem toRat?_zero (negative : Bool) : (zero negative).toRat? = some 0 := by
  cases negative <;> simp [zero, toRat?, magnitude]

theorem representable_zero : Representable 0 :=
  ⟨zero false, toRat?_zero false⟩

theorem representable_magnitude (h : Canonical m e) : Representable (magnitude m e) :=
  ⟨finite false m e h, rfl⟩

theorem Representable.signed {r : Rat} (h : Representable r) (negative : Bool) :
    Representable (signed negative r) := by
  obtain ⟨d, hd⟩ := h
  cases d with
  | nan => exact nomatch hd
  | infinity _ => exact nomatch hd
  | finite other m e hcanonical =>
    obtain rfl := Option.some.inj hd
    refine ⟨finite (negative ^^ other) m e hcanonical, ?_⟩
    cases negative <;> cases other <;> simp [toRat?, Double.signed]

theorem Representable.exists_multiple {r : Rat} (h : Representable r) :
    ∃ (k : Int) (e : Int), k.natAbs < mantissaBound ∧ leastExponent ≤ e ∧
      e ≤ greatestExponent ∧ r = k * 2 ^ e := by
  obtain ⟨d, hd⟩ := h
  cases d with
  | nan => exact nomatch hd
  | infinity negative => exact nomatch hd
  | finite negative m e hcanonical =>
    obtain rfl := Option.some.inj hd
    obtain ⟨hm, hleast, hgreatest, -⟩ := hcanonical
    cases negative with
    | false => exact ⟨m, e, by omega, hleast, hgreatest, by simp [magnitude]⟩
    | true => exact ⟨-m, e, by omega, hleast, hgreatest, by simp [magnitude]⟩

/-- A multiple of a power of two that has at most 53 bits is written with as many of them as the
exponent allows. -/
theorem representable_multiple (hm : m < mantissaBound) (hleast : leastExponent ≤ e)
    (hgreatest : e ≤ greatestExponent) : Representable (magnitude m e) := by
  rcases Nat.eq_zero_or_pos m with rfl | hpos
  · have hzero : magnitude 0 e = 0 := by simp [magnitude]
    exact hzero ▸ representable_zero
  · have hlow := Nat.log2_self_le hpos.ne'
    have hhigh := Nat.lt_log2_self (n := m)
    have hlog : m.log2 < 53 := (Nat.log2_lt hpos.ne').mpr hm
    obtain ⟨k, hk⟩ : ∃ k : Nat, k = min (52 - m.log2) (e - leastExponent).toNat := ⟨_, rfl⟩
    have hbound : m * 2 ^ k < mantissaBound := by
      calc
        m * 2 ^ k < 2 ^ (m.log2 + 1) * 2 ^ k :=
          Nat.mul_lt_mul_of_pos_right hhigh (Nat.two_pow_pos k)
        _ = 2 ^ (m.log2 + 1 + k) := (Nat.pow_add _ _ _).symm
        _ ≤ 2 ^ 53 := Nat.pow_le_pow_right two_pos (by omega)
    have hcanonical : Canonical (m * 2 ^ k) (e - k) := by
      refine ⟨hbound, by omega, by omega, ?_⟩
      rcases Nat.le_total (52 - m.log2) (e - leastExponent).toNat with hfull | hshort
      · left
        calc
          normalBound = 2 ^ (m.log2 + k) := by
            rw [hk, min_eq_left hfull, Nat.add_sub_cancel' (by omega)]
            rfl
          _ = 2 ^ m.log2 * 2 ^ k := Nat.pow_add _ _ _
          _ ≤ m * 2 ^ k := Nat.mul_le_mul_right _ hlow
      · right
        omega
    have hvalue : magnitude (m * 2 ^ k) (e - k) = magnitude m e := by
      rw [magnitude, magnitude, Nat.cast_mul, Nat.cast_pow, Nat.cast_ofNat, mul_assoc,
        ← zpow_natCast, ← two_zpow_add, add_sub_cancel]
    exact hvalue ▸ representable_magnitude hcanonical

/-- The numbers that doubles stand for are the whole multiples of powers of two in which the
multiple has at most 53 bits and the exponent is in range. -/
theorem representable_iff : Representable q ↔
    ∃ (k : Int) (e : Int), k.natAbs < mantissaBound ∧ leastExponent ≤ e ∧
      e ≤ greatestExponent ∧ q = k * 2 ^ e := by
  constructor
  · exact Representable.exists_multiple
  · rintro ⟨k, e, hk, hleast, hgreatest, rfl⟩
    have h := (representable_multiple hk hleast hgreatest).signed (k < 0)
    have hvalue : signed (k < 0) (magnitude k.natAbs e) = k * 2 ^ e := by
      rw [magnitude, signed_mul, signed_natAbs]
    exact hvalue ▸ h

/-- **The nearest multiple of its grid is nearest to a number among all doubles.** A double of a
finer grid lies below the leading bit of the number, which is itself on the grid. -/
theorem gridSteps_nearest_representable (hq : 0 < q) {r : Rat} (hr : Representable r) :
    |q - gridSteps q * 2 ^ gridExponent q| ≤ |q - r| ∧
      (|q - r| = |q - gridSteps q * 2 ^ gridExponent q| →
        r = gridSteps q * 2 ^ gridExponent q ∨ gridSteps q % 2 = 0) := by
  obtain ⟨k, e, hk, hleast, -, rfl⟩ := hr.exists_multiple
  rcases le_or_gt (gridExponent q) e with hcoarse | hfine
  · have hmultiple : (k : Rat) * 2 ^ e =
        ((k * 2 ^ (e - gridExponent q).toNat : Int) : Rat) * 2 ^ gridExponent q := by
      push_cast
      rw [mul_assoc, ← zpow_natCast, ← two_zpow_add]
      congr 2
      omega
    rw [hmultiple]
    exact gridSteps_nearest hq _
  · have hgrid : gridExponent q ≠ leastExponent := by omega
    have hlead := gridExponent_le hq hgrid
    have hbelow : (k : Rat) * 2 ^ e < (2 : Rat) ^ (52 : Int) * 2 ^ gridExponent q := by
      have hk' : (k : Rat) < (2 : Rat) ^ (53 : Int) := by
        have : (k : Int) < mantissaBound := by omega
        exact_mod_cast this
      calc
        (k : Rat) * 2 ^ e < (2 : Rat) ^ (53 : Int) * 2 ^ e :=
          mul_lt_mul_of_pos_right hk' (two_zpow_pos e)
        _ = (2 : Rat) ^ (53 + e) := (two_zpow_add _ _).symm
        _ ≤ (2 : Rat) ^ (52 + gridExponent q) := zpow_le_zpow_right₀ one_le_two (by omega)
        _ = _ := two_zpow_add _ _
    have hcast : ((2 ^ 52 : Int) : Rat) = (2 : Rat) ^ (52 : Int) := by norm_num
    have hnearest := (gridSteps_nearest hq (2 ^ 52)).1
    have hstrict : |q - gridSteps q * 2 ^ gridExponent q| < |q - k * 2 ^ e| := by
      calc
        _ ≤ |q - ((2 ^ 52 : Int) : Rat) * 2 ^ gridExponent q| := hnearest
        _ = q - (2 : Rat) ^ (52 : Int) * 2 ^ gridExponent q := by
          rw [hcast, abs_of_nonneg (sub_nonneg.mpr hlead)]
        _ < q - k * 2 ^ e := sub_lt_sub_left hbelow q
        _ ≤ |q - k * 2 ^ e| := le_abs_self _
    exact ⟨hstrict.le, fun h => absurd h hstrict.ne'⟩

/-! ## Nearest doubles -/

/-- A double is nearest to a number: it is finite, no double is nearer, and its mantissa is even if
another one is as near; or it is an infinity, and the number lies at least half a step beyond the
largest double. -/
inductive IsNearest (q : Rat) : Double → Prop
  | finite {negative : Bool} {m : Nat} {e : Int} {h : Canonical m e} (hrange : |q| < overflowBound)
    (hleast : ∀ r, Representable r → |q - signed negative (magnitude m e)| ≤ |q - r|)
    (heven : ∀ r, Representable r → |q - r| = |q - signed negative (magnitude m e)| →
      r = signed negative (magnitude m e) ∨ m % 2 = 0) : IsNearest q (.finite negative m e h)
  | infinity {negative : Bool} (hrange : overflowBound ≤ signed negative q) :
    IsNearest q (.infinity negative)

/-- **Rounding gives the nearest double.** -/
theorem round_isNearest (negative : Bool) (hq : 0 ≤ q) :
    IsNearest (signed negative q) (round negative q) := by
  rcases hq.eq_or_lt with rfl | hpos
  · rw [round, if_pos rfl, signed_zero]
    have hzero : signed negative (magnitude 0 leastExponent) = 0 := by simp [magnitude]
    refine .finite (by simpa using overflowBound_pos) (fun r _ => ?_) fun r _ h => .inr rfl
    rw [hzero]
    simp
  · by_cases hrange : q < overflowBound
    · obtain ⟨m, e, hcanonical, hround, hvalue, heven⟩ := round_of_lt negative hpos hrange
      rw [hround]
      have hnearest := fun r (hr : Representable r) =>
        gridSteps_nearest_representable hpos (hr.signed negative)
      refine .finite (by rwa [abs_signed, abs_of_pos hpos]) (fun r hr => ?_) fun r hr h => ?_
      · rw [abs_signed_sub, abs_signed_sub, signed_signed, hvalue]
        exact (hnearest r hr).1
      · rw [abs_signed_sub, abs_signed_sub, signed_signed, hvalue] at h
        rcases (hnearest r hr).2 h with hsame | hsteps
        · left
          rw [hvalue, ← hsame, signed_signed]
        · exact .inr (heven hsteps)
    · rw [round_of_ge negative (not_lt.mp hrange)]
      exact .infinity (by rw [signed_signed]; exact not_lt.mp hrange)

/-! ## There is only one -/

/-- The exponents of doubles are in the order of their magnitudes. -/
theorem exponent_le_of_magnitude_le (h : Canonical m e) (h' : Canonical m' e')
    (hle : magnitude m e ≤ magnitude m' e') : e ≤ e' := by
  by_contra hgreater
  have hnormal : (2 : Rat) ^ (52 : Int) ≤ m := by
    obtain ⟨-, -, -, hm | hleast⟩ := h
    · exact_mod_cast hm
    · have := h'.2.1
      omega
  have hlarge : magnitude m' e' < magnitude m e := by
    calc
      magnitude m' e' < (2 : Rat) ^ (53 : Int) * 2 ^ e' :=
        mul_lt_mul_of_pos_right (by exact_mod_cast h'.1) (two_zpow_pos e')
      _ = 2 ^ (53 + e') := (two_zpow_add _ _).symm
      _ ≤ 2 ^ (52 + e) := zpow_le_zpow_right₀ one_le_two (by omega)
      _ = 2 ^ (52 : Int) * 2 ^ e := two_zpow_add _ _
      _ ≤ magnitude m e := mul_le_mul_of_nonneg_right hnormal (two_zpow_pos e).le
  exact absurd hle hlarge.not_ge

/-- A magnitude is written with mantissa and exponent in one way. -/
theorem eq_of_magnitude_eq (h : Canonical m e) (h' : Canonical m' e')
    (hsame : magnitude m e = magnitude m' e') : m = m' ∧ e = e' := by
  obtain rfl : e = e' := le_antisymm (exponent_le_of_magnitude_le h h' hsame.le)
    (exponent_le_of_magnitude_le h' h hsame.ge)
  exact ⟨Nat.cast_injective (mul_right_cancel₀ (two_zpow_pos e).ne' hsame), rfl⟩

/-- Between two magnitudes with even mantissas there is another one. -/
theorem exists_magnitude_between (h : Canonical m e) (h' : Canonical m' e') (hm : m % 2 = 0)
    (hm' : m' % 2 = 0) (hlt : magnitude m e < magnitude m' e') :
    ∃ r, Representable r ∧ magnitude m e < r ∧ r < magnitude m' e' := by
  have hexponent := exponent_le_of_magnitude_le h h' hlt.le
  have hnext : Canonical (m + 1) e := by
    obtain ⟨hbound, hleast, hgreatest, hnormal⟩ := h
    refine ⟨?_, hleast, hgreatest, hnormal.imp_left (Nat.le_succ_of_le ·)⟩
    unfold mantissaBound at *
    omega
  have hstep : magnitude m' e' = (m' * 2 ^ (e' - e).toNat : Nat) * (2 : Rat) ^ e := by
    push_cast
    rw [mul_assoc, ← zpow_natCast, ← two_zpow_add, magnitude]
    congr 2
    omega
  have hle : magnitude (m + 1) e ≤ magnitude m' e' := by
    rw [hstep] at hlt ⊢
    have hless := Nat.cast_lt.mp (lt_of_mul_lt_mul_right hlt (two_zpow_pos e).le)
    exact mul_le_mul_of_nonneg_right (Nat.cast_le.mpr hless) (two_zpow_pos e).le
  refine ⟨magnitude (m + 1) e, representable_magnitude hnext, ?_, lt_of_le_of_ne hle ?_⟩
  · exact mul_lt_mul_of_pos_right (Nat.cast_lt.mpr (Nat.lt_succ_self m)) (two_zpow_pos e)
  · intro hsame
    have := (eq_of_magnitude_eq hnext h' hsame).1
    omega

/-- Between two doubles with even mantissas there is another one. -/
theorem exists_representable_between {negative negative' : Bool} (h : Canonical m e)
    (h' : Canonical m' e') (hm : m % 2 = 0) (hm' : m' % 2 = 0)
    (hlt : signed negative (magnitude m e) < signed negative' (magnitude m' e')) :
    ∃ r, Representable r ∧ signed negative (magnitude m e) < r ∧
      r < signed negative' (magnitude m' e') := by
  cases negative with
  | false =>
    cases negative' with
    | false => exact exists_magnitude_between h h' hm hm' hlt
    | true =>
      have hneg : -magnitude m' e' ≤ 0 := neg_nonpos.mpr (magnitude_nonneg m' e')
      exact absurd (hlt.trans_le hneg) (magnitude_nonneg m e).not_gt
  | true =>
    have hopposite : magnitude m' e' < magnitude m e →
        ∃ r, Representable r ∧ -magnitude m e < r ∧ r < -magnitude m' e' := by
      intro hlt
      obtain ⟨r, hr, hlow, hhigh⟩ := exists_magnitude_between h' h hm' hm hlt
      exact ⟨-r, hr.signed true, neg_lt_neg hhigh, neg_lt_neg hlow⟩
    cases negative' with
    | true => exact hopposite (neg_lt_neg_iff.mp hlt)
    | false =>
      -- Zero is between, unless it is one of the two.
      rcases (magnitude_nonneg m e).eq_or_lt with hzero | hpos
      · simp only [signed, if_true, Bool.false_eq_true, if_false, ← hzero, neg_zero] at hlt ⊢
        rw [hzero] at hlt ⊢
        exact exists_magnitude_between h h' hm hm' hlt
      · rcases (magnitude_nonneg m' e').eq_or_lt with hzero' | hpos'
        · obtain ⟨r, hr, hlow, hhigh⟩ := hopposite (by rwa [← hzero'])
          refine ⟨r, hr, hlow, hhigh.trans_le ?_⟩
          exact neg_le_self (magnitude_nonneg m' e')
        · exact ⟨0, representable_zero, neg_neg_of_pos hpos, hpos'⟩

theorem representable_finite (negative : Bool) (h : Canonical m e) :
    Representable (signed negative (magnitude m e)) :=
  ⟨finite negative m e h, rfl⟩

/-- Two nearest doubles would be equally near, so both even, and one between them would be nearer.
-/
theorem IsNearest.value_le {negative negative' : Bool} {h : Canonical m e} {h' : Canonical m' e'}
    (hq : IsNearest q (.finite negative m e h)) (hq' : IsNearest q (.finite negative' m' e' h')) :
    signed negative' (magnitude m' e') ≤ signed negative (magnitude m e) := by
  by_contra hgreater
  have hlt := not_le.mp hgreater
  cases hq with
  | finite _ hleast heven =>
    cases hq' with
    | finite _ hleast' heven' =>
      have hrep := representable_finite negative h
      have hrep' := representable_finite negative' h'
      have hsame := le_antisymm (hleast _ hrep') (hleast' _ hrep)
      have hm : m % 2 = 0 := (heven _ hrep' hsame.symm).resolve_left hlt.ne'
      have hm' : m' % 2 = 0 := (heven' _ hrep hsame).resolve_left hlt.ne
      obtain ⟨r, hr, hlow, hhigh⟩ := exists_representable_between h h' hm hm' hlt
      have hmiddle : q - signed negative (magnitude m e) =
          signed negative' (magnitude m' e') - q := by
        rcases abs_eq_abs.mp hsame with heq | hopposite
        · exact absurd (sub_right_injective heq) hlt.ne
        · rw [hopposite, neg_sub]
      have hnearer : |q - r| < |q - signed negative (magnitude m e)| :=
        lt_of_lt_of_le (abs_lt.mpr ⟨by linarith, by linarith⟩) (le_abs_self _)
      exact absurd (hleast r hr) hnearer.not_ge

/-- A number is in the range of doubles or beyond it, and beyond it on one side. -/
theorem not_lt_overflowBound {negative : Bool} (h : overflowBound ≤ signed negative q) :
    ¬ |q| < overflowBound := by
  rw [← abs_signed negative]
  exact not_lt.mpr (h.trans (le_abs_self _))

theorem eq_of_overflowBound_le {negative negative' : Bool} (h : overflowBound ≤ signed negative q)
    (h' : overflowBound ≤ signed negative' q) : negative = negative' := by
  have hpos := overflowBound_pos
  cases negative with
  | false =>
    cases negative' with
    | false => rfl
    | true =>
      simp only [signed, if_true, Bool.false_eq_true, if_false] at h h'
      linarith
  | true =>
    cases negative' with
    | true => rfl
    | false =>
      simp only [signed, if_true, Bool.false_eq_true, if_false] at h h'
      linarith

/-- **The nearest double is determined,** up to the sign of zero. -/
theorem IsNearest.place?_eq {d d' : Double} (h : IsNearest q d) (h' : IsNearest q d') :
    d.place? = d'.place? := by
  cases d with
  | nan => exact nomatch h
  | infinity negative =>
    cases h with
    | infinity hrange =>
      cases h' with
      | infinity hrange' => rw [eq_of_overflowBound_le hrange hrange']
      | finite hrange' => exact absurd hrange' (not_lt_overflowBound hrange)
  | finite negative m e hcanonical =>
    cases d' with
    | nan => exact nomatch h'
    | infinity negative' =>
      cases h with
      | finite hrange =>
        cases h' with
        | infinity hrange' => exact absurd hrange (not_lt_overflowBound hrange')
    | finite negative' m' e' hcanonical' =>
      exact congrArg (some ∘ Place.rational) (le_antisymm (h'.value_le h) (h.value_le h'))

/-- Only the mantissa zero stands for zero. -/
theorem magnitude_eq_zero_iff : magnitude m e = 0 ↔ m = 0 := by
  rw [magnitude, mul_eq_zero, Nat.cast_eq_zero]
  exact or_iff_left (two_zpow_pos e).ne'

theorem magnitude_lt_overflowBound (h : Canonical m e) : magnitude m e < overflowBound := by
  have hmantissa : (m : Rat) ≤ (2 : Rat) ^ (53 : Int) - 1 := by
    have hle : m ≤ mantissaBound - 1 := Nat.le_sub_one_of_lt h.1
    exact le_trans (Nat.cast_le.mpr hle) (by norm_num [mantissaBound])
  have hexponent : (2 : Rat) ^ e ≤ 2 ^ greatestExponent :=
    zpow_le_zpow_right₀ one_le_two h.2.2.1
  calc
    magnitude m e ≤ m * 2 ^ greatestExponent := mul_le_mul_of_nonneg_left hexponent m.cast_nonneg
    _ ≤ ((2 : Rat) ^ (53 : Int) - 1) * 2 ^ greatestExponent :=
      mul_le_mul_of_nonneg_right hmantissa (two_zpow_pos _).le
    _ < ((2 : Rat) ^ (53 : Int) - 1 / 2) * 2 ^ greatestExponent :=
      mul_lt_mul_of_pos_right (by norm_num) (two_zpow_pos _)
    _ = overflowBound := overflowBound_eq.symm

/-- A double is nearest to the number that it stands for. -/
theorem isNearest_self (negative : Bool) (h : Canonical m e) :
    IsNearest (signed negative (magnitude m e)) (.finite negative m e h) := by
  refine .finite ?_ (fun r _ => by simp) fun r _ hsame => .inl ?_
  · rw [abs_signed, abs_of_nonneg (magnitude_nonneg m e)]
    exact magnitude_lt_overflowBound h
  · rw [sub_self, abs_zero, abs_eq_zero, sub_eq_zero] at hsame
    exact hsame.symm

theorem isNearest_of_toRat? {d : Double} (h : d.toRat? = some q) : IsNearest q d := by
  cases d with
  | nan => exact nomatch h
  | infinity negative => exact nomatch h
  | finite negative m e hcanonical => exact Option.some.inj h ▸ isNearest_self negative hcanonical

theorem place?_finite (negative : Bool) (h : Canonical m e) :
    (finite negative m e h).place? = some (.rational (signed negative (magnitude m e))) :=
  rfl

/-- Only zero has two doubles. -/
theorem eq_of_place?_eq {d d' : Double} (hsame : d.place? = d'.place?) (hnone : d.place? ≠ none)
    (hzero : d.place? ≠ some (.rational 0)) : d = d' := by
  cases d with
  | nan => exact absurd rfl hnone
  | infinity negative =>
    cases d' with
    | nan => exact absurd hsame hnone
    | infinity negative' => cases negative <;> cases negative' <;> simp_all [place?]
    | finite negative' m' e' h' => cases negative <;> simp [place?] at hsame
  | finite negative m e h =>
    cases d' with
    | nan => exact absurd hsame hnone
    | infinity negative' => cases negative' <;> simp [place?] at hsame
    | finite negative' m' e' h' =>
      have hvalue : signed negative (magnitude m e) = signed negative' (magnitude m' e') :=
        Place.rational.inj (Option.some.inj hsame)
      have hmagnitude : magnitude m e = magnitude m' e' := by
        have habs := congrArg abs hvalue
        rwa [abs_signed, abs_signed, abs_of_nonneg (magnitude_nonneg m e),
          abs_of_nonneg (magnitude_nonneg m' e')] at habs
      have hne : magnitude m e ≠ 0 := by
        intro hmagnitude
        rw [place?_finite, hmagnitude, signed_zero] at hzero
        exact hzero rfl
      obtain ⟨rfl, rfl⟩ := eq_of_magnitude_eq h h' hmagnitude
      obtain rfl := eq_of_signed_eq hne hvalue
      rfl

/-- **What a double stands for is rounded to it.** -/
theorem round_magnitude (negative : Bool) (h : Canonical m e) (hm : m ≠ 0) :
    round negative (magnitude m e) = .finite negative m e h := by
  have hround := round_isNearest negative (magnitude_nonneg m e)
  refine (eq_of_place?_eq ((isNearest_self negative h).place?_eq hround) nofun ?_).symm
  intro hzero
  have hvalue : signed negative (magnitude m e) = 0 := Place.rational.inj (Option.some.inj hzero)
  have habs := congrArg abs hvalue
  rw [abs_signed, abs_zero, abs_eq_zero] at habs
  exact hm (magnitude_eq_zero_iff.mp habs)

end Double

/-! ## Decimals -/

namespace Decimal

/-- The rational number that a decimal stands for. -/
def toRat (d : Decimal) : Rat :=
  Double.signed d.negative d.magnitude

theorem magnitude_nonneg (d : Decimal) : 0 ≤ d.magnitude :=
  mul_nonneg d.coefficient.cast_nonneg (zpow_nonneg (by norm_num) _)

theorem ten_zpow_pos (x : Int) : (0 : Rat) < 10 ^ x :=
  zpow_pos (by norm_num) x

/-- Ten is more than the third power of two. -/
theorem two_zpow_le_ten_zpow {x : Int} (hx : 0 ≤ x) : (2 : Rat) ^ (3 * x) ≤ 10 ^ x := by
  rw [zpow_mul]
  exact zpow_le_zpow_left₀ hx (by norm_num) (by norm_num)

theorem ten_zpow_le_two_zpow {x : Int} (hx : x ≤ 0) : (10 : Rat) ^ x ≤ 2 ^ (3 * x) := by
  have h := two_zpow_le_ten_zpow (neg_nonneg.mpr hx)
  rw [mul_neg, zpow_neg, zpow_neg] at h
  exact (inv_le_inv₀ (Double.two_zpow_pos _) (ten_zpow_pos _)).mp h

/-- What the size estimate puts above all doubles is above them. -/
theorem overflowBound_le_of_tooLarge {d : Decimal} (hd : d.coefficient ≠ 0)
    (h : d.tooLarge = true) : Double.overflowBound ≤ d.magnitude := by
  unfold tooLarge at h
  rw [Bool.and_eq_true, decide_eq_true_eq, decide_eq_true_eq] at h
  obtain ⟨hexponent, hsize⟩ := h
  calc
    Double.overflowBound ≤ (2 : Rat) ^ (1024 : Int) :=
      sub_le_self _ (Double.two_zpow_pos 970).le
    _ ≤ 2 ^ ((d.coefficient.log2 : Int) + 3 * d.exponent) :=
      zpow_le_zpow_right₀ one_le_two (by omega)
    _ = 2 ^ (d.coefficient.log2 : Int) * 2 ^ (3 * d.exponent) := Double.two_zpow_add _ _
    _ ≤ d.magnitude :=
      mul_le_mul (Double.log2_bounds hd).1 (two_zpow_le_ten_zpow hexponent)
        (Double.two_zpow_pos _).le d.coefficient.cast_nonneg

/-- What it puts near zero is less than half the smallest double. -/
theorem magnitude_lt_of_tooSmall {d : Decimal} (hd : d.coefficient ≠ 0) (h : d.tooSmall = true) :
    d.magnitude < (2 : Rat) ^ (-1080 : Int) := by
  unfold tooSmall at h
  rw [Bool.and_eq_true, decide_eq_true_eq, decide_eq_true_eq] at h
  obtain ⟨hexponent, hsize⟩ := h
  calc
    d.magnitude < (2 : Rat) ^ ((d.coefficient.log2 : Int) + 1) * 10 ^ d.exponent :=
      mul_lt_mul_of_pos_right (Double.log2_bounds hd).2 (ten_zpow_pos _)
    _ ≤ 2 ^ ((d.coefficient.log2 : Int) + 1) * 2 ^ (3 * d.exponent) :=
      mul_le_mul_of_nonneg_left (ten_zpow_le_two_zpow hexponent.le) (Double.two_zpow_pos _).le
    _ = 2 ^ ((d.coefficient.log2 : Int) + 1 + 3 * d.exponent) := (Double.two_zpow_add _ _).symm
    _ ≤ 2 ^ (-1080 : Int) := zpow_le_zpow_right₀ one_le_two (by omega)

/-- **A decimal is rounded as the number that it stands for,** whether its size is estimated or its
power of ten computed. -/
theorem toDouble_eq_round (d : Decimal) : d.toDouble = .round d.negative d.magnitude := by
  unfold toDouble
  split_ifs with hzero hlarge hsmall
  · rw [Double.round, if_pos]
    simp [magnitude, hzero]
  · exact (Double.round_of_ge _ (overflowBound_le_of_tooLarge hzero hlarge)).symm
  · have hpos : 0 < d.magnitude :=
      mul_pos (Nat.cast_pos.mpr (Nat.pos_of_ne_zero hzero)) (ten_zpow_pos _)
    exact (Double.round_of_tiny _ hpos (magnitude_lt_of_tooSmall hzero hsmall)).symm
  · rfl

theorem toDouble_isNearest (d : Decimal) : d.toDouble.IsNearest d.toRat := by
  rw [toDouble_eq_round]
  exact Double.round_isNearest d.negative d.magnitude_nonneg

end Decimal

end Rulebook
