import Mathlib.Algebra.Order.Field.Power
import Mathlib.Algebra.Order.Ring.Rat
import Mathlib.Tactic.Linarith
import Mathlib.Tactic.NormNum
import Rulebook.Number.Double

/-!
# What rounding does

A positive number is rounded on a grid: the whole multiples of a power of two, chosen so that the
number takes up 53 bits of it. `Double.gridExponent` and `Double.gridSteps` name the grid and the
multiple that is taken, and the rest of the library uses only what is said of these two here: the
multiple is nearest among all of its grid, and the even one of two nearest
(`Double.gridSteps_nearest`). The result is that multiple, as long as the number is below
`Double.overflowBound`, and an infinity from there on.
-/

set_option autoImplicit false

namespace Rulebook

namespace Double

variable {q : Rat} {negative : Bool}

/-! ## Whole numbers -/

/-- A number is at most one half away from what it is rounded to, and at one half that is even. -/
theorem roundHalfEven_error (hq : 0 ≤ q) :
    |q - roundHalfEven q| < 1 / 2 ∨
      |q - roundHalfEven q| = 1 / 2 ∧ roundHalfEven q % 2 = 0 := by
  have hnonneg : 0 ≤ q.floor := Rat.le_floor_iff.mpr (by simpa using hq)
  have hcast : ((q.floor.toNat : Nat) : Rat) = (q.floor : Rat) := by
    rw [← Int.cast_natCast, Int.toNat_of_nonneg hnonneg]
  have hlow : (q.floor : Rat) ≤ q := Rat.le_floor_iff.mp (le_refl _)
  have hhigh : q < (q.floor : Rat) + 1 := by
    have hlt : q.floor < q.floor + 1 := lt_add_one _
    simpa using Rat.floor_lt_iff.mp hlt
  unfold roundHalfEven
  simp only [Bool.or_eq_true, Bool.and_eq_true, decide_eq_true_eq, beq_iff_eq]
  generalize q.floor.toNat = below at hcast ⊢
  rw [← hcast] at hlow hhigh
  split_ifs with hup
  · rw [Nat.cast_add, Nat.cast_one]
    rcases hup with habove | ⟨htie, hodd⟩
    · left
      rw [abs_lt]
      constructor <;> linarith
    · right
      refine ⟨?_, by omega⟩
      rw [abs_of_nonpos (by linarith)]
      linarith
  · rw [not_or, not_lt, not_and] at hup
    obtain ⟨hbelow, heven⟩ := hup
    rw [abs_of_nonneg (by linarith)]
    rcases hbelow.lt_or_eq with hlt | htie
    · exact .inl hlt
    · have := heven htie
      exact .inr ⟨htie, by omega⟩

/-- No whole number is nearer, and one that is as near is the same or the even one was taken. -/
theorem roundHalfEven_nearest (hq : 0 ≤ q) (k : Int) :
    |q - roundHalfEven q| ≤ |q - k| ∧
      (|q - k| = |q - roundHalfEven q| →
        (k : Rat) = roundHalfEven q ∨ roundHalfEven q % 2 = 0) := by
  by_cases hk : k = (roundHalfEven q : Int)
  · rw [hk]
    exact ⟨by simp, fun _ => .inl (by simp)⟩
  · have hapart : (1 : Rat) ≤ |(k : Rat) - roundHalfEven q| := by
      have hone : 1 ≤ |k - (roundHalfEven q : Int)| := Int.one_le_abs (sub_ne_zero.mpr hk)
      exact_mod_cast hone
    have htriangle : |(k : Rat) - roundHalfEven q| ≤ |q - k| + |q - roundHalfEven q| := by
      rw [abs_sub_comm q k]
      exact abs_sub_le _ _ _
    rcases roundHalfEven_error hq with hlt | ⟨heq, heven⟩
    · exact ⟨by linarith, fun h => by linarith⟩
    · exact ⟨by linarith, fun _ => .inr heven⟩

theorem roundHalfEven_error_le (hq : 0 ≤ q) : |q - roundHalfEven q| ≤ 1 / 2 := by
  rcases roundHalfEven_error hq with hlt | ⟨heq, -⟩
  · exact hlt.le
  · exact heq.le

/-- Rounding does not pass a whole number. -/
theorem roundHalfEven_le {k : Nat} (hq : 0 ≤ q) (h : q ≤ k) : roundHalfEven q ≤ k := by
  have hclose := (abs_le.mp (roundHalfEven_error_le hq)).1
  have hlt : (roundHalfEven q : Rat) < (k + 1 : Nat) := by
    push_cast
    linarith
  exact Nat.lt_succ_iff.mp (Nat.cast_lt.mp hlt)

theorem le_roundHalfEven {k : Nat} (hq : 0 ≤ q) (h : (k : Rat) ≤ q) : k ≤ roundHalfEven q := by
  have hclose := (abs_le.mp (roundHalfEven_error_le hq)).2
  have hlt : (k : Rat) < (roundHalfEven q + 1 : Nat) := by
    push_cast
    linarith
  exact Nat.lt_succ_iff.mp (Nat.cast_lt.mp hlt)

theorem roundHalfEven_of_lt (hq : 0 ≤ q) (h : q < 1 / 2) : roundHalfEven q = 0 := by
  have hclose := (abs_le.mp (roundHalfEven_error_le hq)).1
  have hlt : (roundHalfEven q : Rat) < (1 : Nat) := by
    push_cast
    linarith
  exact Nat.lt_one_iff.mp (Nat.cast_lt.mp hlt)

/-- What lies up to one half below an even number is rounded to it. -/
theorem roundHalfEven_eq_iff {k : Nat} (hq : 0 ≤ q) (hk : k % 2 = 0) (h : q ≤ k) :
    roundHalfEven q = k ↔ (k : Rat) - 1 / 2 ≤ q := by
  have hle := roundHalfEven_le hq h
  constructor
  · intro heq
    have hclose := (abs_le.mp (roundHalfEven_error_le hq)).1
    rw [heq] at hclose
    linarith
  · intro hhalf
    by_contra hne
    -- One less would be half away, and odd.
    have hless : (roundHalfEven q : Rat) + 1 ≤ k := by
      exact_mod_cast Nat.lt_of_le_of_ne hle hne
    have hfar : 1 / 2 ≤ |q - roundHalfEven q| := le_trans (by linarith) (le_abs_self _)
    rcases roundHalfEven_error hq with hlt | ⟨heq, heven⟩
    · exact absurd hlt hfar.not_gt
    · have habs := le_abs_self (q - roundHalfEven q)
      have hsucc : (roundHalfEven q : Rat) + 1 = k := by linarith
      have : roundHalfEven q + 1 = k := by exact_mod_cast hsucc
      omega

/-! ## Powers of two -/

theorem two_zpow_pos (e : Int) : (0 : Rat) < 2 ^ e :=
  zpow_pos two_pos e

theorem two_zpow_add (x y : Int) : (2 : Rat) ^ (x + y) = 2 ^ x * 2 ^ y :=
  zpow_add₀ two_ne_zero x y

/-- A natural number lies between two powers of two. -/
theorem log2_bounds {n : Nat} (hn : n ≠ 0) :
    (2 : Rat) ^ (n.log2 : Int) ≤ n ∧ (n : Rat) < 2 ^ ((n.log2 : Int) + 1) := by
  constructor
  · rw [zpow_natCast]
    exact_mod_cast Nat.log2_self_le hn
  · rw [← Nat.cast_succ, zpow_natCast]
    exact_mod_cast Nat.lt_log2_self

/-- A positive number lies between two powers of two. -/
theorem binaryExponent_bounds (hq : 0 < q) :
    (2 : Rat) ^ binaryExponent q ≤ q ∧ q < 2 ^ (binaryExponent q + 1) := by
  have hnum : q.num.natAbs ≠ 0 := by
    have := Rat.num_pos.mpr hq
    omega
  obtain ⟨hnumLow, hnumHigh⟩ := log2_bounds hnum
  obtain ⟨hdenLow, hdenHigh⟩ := log2_bounds q.den_nz
  have hden : (0 : Rat) < q.den := Nat.cast_pos.mpr q.den_pos
  have hquotient : q = (q.num.natAbs : Rat) / (q.den : Rat) := by
    rw [Nat.cast_natAbs, abs_of_pos (Rat.num_pos.mpr hq), Rat.num_div_den]
  -- Numerator and denominator are each known up to a factor of two.
  have hlow : (2 : Rat) ^ ((q.num.natAbs.log2 : Int) - q.den.log2 - 1) < q := by
    conv_rhs => rw [hquotient]
    rw [lt_div_iff₀ hden]
    calc
      _ < (2 : Rat) ^ ((q.num.natAbs.log2 : Int) - q.den.log2 - 1) * 2 ^ ((q.den.log2 : Int) + 1) :=
        mul_lt_mul_of_pos_left hdenHigh (two_zpow_pos _)
      _ = (2 : Rat) ^ (q.num.natAbs.log2 : Int) := by
        rw [← two_zpow_add]
        congr 1
        omega
      _ ≤ _ := hnumLow
  have hhigh : q < (2 : Rat) ^ ((q.num.natAbs.log2 : Int) - q.den.log2 + 1) := by
    conv_lhs => rw [hquotient]
    rw [div_lt_iff₀ hden]
    calc
      _ < (2 : Rat) ^ ((q.num.natAbs.log2 : Int) + 1) := hnumHigh
      _ = (2 : Rat) ^ ((q.num.natAbs.log2 : Int) - q.den.log2 + 1) * 2 ^ (q.den.log2 : Int) := by
        rw [← two_zpow_add]
        congr 1
        omega
      _ ≤ _ := mul_le_mul_of_nonneg_left hdenLow (two_zpow_pos _).le
  unfold binaryExponent
  dsimp only
  split_ifs with hbelow
  · exact ⟨hlow.le, by rwa [sub_add_cancel]⟩
  · exact ⟨not_lt.mp hbelow, hhigh⟩

/-! ## The grid of a number -/

/-- The exponent of the grid on which a positive number is rounded: its leading bit is the 53rd,
unless that takes the exponent below the smallest. -/
def gridExponent (q : Rat) : Int :=
  max (binaryExponent q - 52) leastExponent

/-- How many steps of its grid a positive number is rounded to. -/
def gridSteps (q : Rat) : Nat :=
  roundHalfEven (q / (2 : Rat) ^ gridExponent q)

theorem round_of_pos (hq : 0 < q) :
    round negative q =
      if gridSteps q = mantissaBound then ofParts negative normalBound (gridExponent q + 1)
      else ofParts negative (gridSteps q) (gridExponent q) := by
  rw [round, if_neg hq.ne']
  rfl

theorem leastExponent_le_gridExponent (q : Rat) : leastExponent ≤ gridExponent q :=
  le_max_right _ _

/-- A number is less than 53 bits of its grid. -/
theorem lt_gridExponent (hq : 0 < q) : q < (2 : Rat) ^ (53 : Int) * 2 ^ gridExponent q := by
  have hexponent : binaryExponent q + 1 ≤ 53 + gridExponent q := by
    have : binaryExponent q - 52 ≤ gridExponent q := le_max_left _ _
    omega
  calc
    q < (2 : Rat) ^ (binaryExponent q + 1) := (binaryExponent_bounds hq).2
    _ ≤ (2 : Rat) ^ (53 + gridExponent q) := zpow_le_zpow_right₀ one_le_two hexponent
    _ = (2 : Rat) ^ (53 : Int) * 2 ^ gridExponent q := two_zpow_add _ _

/-- Above the smallest grid a number takes up all 53 bits. -/
theorem gridExponent_le (hq : 0 < q) (hgrid : gridExponent q ≠ leastExponent) :
    (2 : Rat) ^ (52 : Int) * 2 ^ gridExponent q ≤ q := by
  have hexponent : 52 + gridExponent q = binaryExponent q := by
    unfold gridExponent at hgrid ⊢
    omega
  rw [← two_zpow_add, hexponent]
  exact (binaryExponent_bounds hq).1

/-- The nearest whole number of steps is nearest among the multiples of the grid. -/
theorem gridSteps_nearest (hq : 0 < q) (k : Int) :
    |q - gridSteps q * 2 ^ gridExponent q| ≤ |q - k * 2 ^ gridExponent q| ∧
      (|q - k * 2 ^ gridExponent q| = |q - gridSteps q * 2 ^ gridExponent q| →
        (k : Rat) * 2 ^ gridExponent q = gridSteps q * 2 ^ gridExponent q ∨
          gridSteps q % 2 = 0) := by
  have hpos := two_zpow_pos (gridExponent q)
  have hscale : ∀ x : Rat, |q - x * 2 ^ gridExponent q| =
      |q / 2 ^ gridExponent q - x| * 2 ^ gridExponent q := by
    intro x
    rw [← abs_of_pos hpos, ← abs_mul, abs_of_pos hpos, sub_mul, div_mul_cancel₀ _ hpos.ne']
  obtain ⟨hleast, htie⟩ := roundHalfEven_nearest (div_pos hq hpos).le k
  rw [hscale, hscale]
  refine ⟨mul_le_mul_of_nonneg_right hleast hpos.le, fun h => ?_⟩
  rcases htie (mul_right_cancel₀ hpos.ne' h) with hsame | heven
  · exact .inl (congrArg (· * (2 : Rat) ^ gridExponent q) hsame)
  · exact .inr heven

theorem gridSteps_le (hq : 0 < q) : gridSteps q ≤ mantissaBound := by
  have hpos := two_zpow_pos (gridExponent q)
  refine roundHalfEven_le (div_pos hq hpos).le ?_
  rw [div_le_iff₀ hpos]
  exact_mod_cast (lt_gridExponent hq).le

theorem normalBound_le_gridSteps (hq : 0 < q) (hgrid : gridExponent q ≠ leastExponent) :
    normalBound ≤ gridSteps q := by
  have hpos := two_zpow_pos (gridExponent q)
  refine le_roundHalfEven (div_pos hq hpos).le ?_
  rw [le_div_iff₀ hpos]
  exact_mod_cast gridExponent_le hq hgrid

/-! ## What rounding gives -/

/-- Halfway between the largest double and the power of two above it. From here on numbers are
rounded to an infinity. -/
def overflowBound : Rat :=
  (2 : Rat) ^ (1024 : Int) - 2 ^ (970 : Int)

theorem overflowBound_eq :
    overflowBound = ((2 : Rat) ^ (53 : Int) - 1 / 2) * 2 ^ greatestExponent := by
  unfold overflowBound greatestExponent
  rw [sub_mul, ← two_zpow_add, one_div, ← zpow_neg_one, ← two_zpow_add]
  norm_num

theorem overflowBound_pos : 0 < overflowBound := by
  rw [overflowBound_eq]
  exact mul_pos (by norm_num) (two_zpow_pos _)

/-- A number is in the range of doubles when the nearest multiple of its grid is. -/
theorem lt_overflowBound_iff (hq : 0 < q) :
    q < overflowBound ↔ gridExponent q ≤ greatestExponent ∧
      (gridSteps q = mantissaBound → gridExponent q ≠ greatestExponent) := by
  have hpos := two_zpow_pos (gridExponent q)
  rcases lt_trichotomy (gridExponent q) greatestExponent with hless | hsame | hgreater
  · refine ⟨fun _ => ⟨hless.le, fun _ => hless.ne⟩, fun _ => ?_⟩
    calc
      q < (2 : Rat) ^ (53 : Int) * 2 ^ gridExponent q := lt_gridExponent hq
      _ = 2 ^ (53 + gridExponent q) := (two_zpow_add _ _).symm
      _ ≤ 2 ^ (52 + greatestExponent) := zpow_le_zpow_right₀ one_le_two (by omega)
      _ = 2 ^ (52 : Int) * 2 ^ greatestExponent := two_zpow_add _ _
      _ ≤ overflowBound := by
        rw [overflowBound_eq]
        exact mul_le_mul_of_nonneg_right (by norm_num) (two_zpow_pos _).le
  · have hscaled : 0 ≤ q / (2 : Rat) ^ gridExponent q := (div_pos hq hpos).le
    have hbelow : q / (2 : Rat) ^ gridExponent q ≤ (mantissaBound : Nat) := by
      rw [div_le_iff₀ hpos]
      exact_mod_cast (lt_gridExponent hq).le
    have hcarry := roundHalfEven_eq_iff hscaled (by decide) hbelow
    rw [le_div_iff₀ hpos] at hcarry
    have hbound : overflowBound = ((mantissaBound : Nat) - 1 / 2) * 2 ^ gridExponent q := by
      rw [overflowBound_eq, hsame]
      norm_num [mantissaBound]
    rw [hbound, ← not_le, ← hcarry]
    exact ⟨fun h => ⟨hsame.le, fun hsteps => absurd hsteps h⟩, fun h hsteps => h.2 hsteps hsame⟩
  · refine ⟨fun h => absurd h (not_lt.mpr ?_), fun h => absurd h.1 hgreater.not_ge⟩
    have hleast : gridExponent q ≠ leastExponent := by
      unfold greatestExponent leastExponent at *
      omega
    calc
      overflowBound ≤ (2 : Rat) ^ (53 : Int) * 2 ^ greatestExponent := by
        rw [overflowBound_eq]
        exact mul_le_mul_of_nonneg_right (by norm_num) (two_zpow_pos _).le
      _ = 2 ^ (53 + greatestExponent) := (two_zpow_add _ _).symm
      _ ≤ 2 ^ (52 + gridExponent q) := zpow_le_zpow_right₀ one_le_two (by omega)
      _ = 2 ^ (52 : Int) * 2 ^ gridExponent q := two_zpow_add _ _
      _ ≤ q := gridExponent_le hq hleast

/-- Within the range of doubles the nearest multiple of the grid is taken. -/
theorem round_of_lt (negative : Bool) (hq : 0 < q) (hrange : q < overflowBound) :
    ∃ (m : Nat) (e : Int) (h : Canonical m e), round negative q = finite negative m e h ∧
      magnitude m e = gridSteps q * 2 ^ gridExponent q ∧ (gridSteps q % 2 = 0 → m % 2 = 0) := by
  obtain ⟨hgreatest, hcarry⟩ := (lt_overflowBound_iff hq).mp hrange
  have hleast := leastExponent_le_gridExponent q
  rw [round_of_pos hq]
  by_cases hsteps : gridSteps q = mantissaBound
  · have hne := hcarry hsteps
    have hcanonical : Canonical normalBound (gridExponent q + 1) :=
      ⟨by decide, by omega, by omega, .inl (le_refl _)⟩
    rw [if_pos hsteps, ofParts, dif_pos hcanonical]
    refine ⟨_, _, hcanonical, rfl, ?_, fun _ => by decide⟩
    rw [hsteps, magnitude, two_zpow_add]
    norm_num [normalBound, mantissaBound]
    linarith
  · have hbound := gridSteps_le hq
    have hcanonical : Canonical (gridSteps q) (gridExponent q) := by
      refine ⟨Nat.lt_of_le_of_ne hbound hsteps, hleast, hgreatest, ?_⟩
      by_cases hgrid : gridExponent q = leastExponent
      · exact .inr hgrid
      · exact .inl (normalBound_le_gridSteps hq hgrid)
    rw [if_neg hsteps, ofParts, dif_pos hcanonical]
    exact ⟨_, _, hcanonical, rfl, rfl, id⟩

/-- Beyond it there is only infinity. -/
theorem round_of_ge (negative : Bool) (h : overflowBound ≤ q) :
    round negative q = infinity negative := by
  have hq : 0 < q := overflowBound_pos.trans_le h
  have hrange : ¬ (gridExponent q ≤ greatestExponent ∧
      (gridSteps q = mantissaBound → gridExponent q ≠ greatestExponent)) :=
    fun hfits => absurd ((lt_overflowBound_iff hq).mpr hfits) h.not_gt
  rw [round_of_pos hq]
  split_ifs with hsteps
  · rw [ofParts, dif_neg]
    rintro ⟨-, -, hgreatest, -⟩
    exact hrange ⟨by omega, fun _ => by omega⟩
  · rw [ofParts, dif_neg]
    rintro ⟨-, -, hgreatest, -⟩
    exact hrange ⟨hgreatest, fun h => absurd h hsteps⟩

/-- Far below half the smallest double there is only zero. -/
theorem round_of_tiny (negative : Bool) (hq : 0 < q) (hsmall : q < (2 : Rat) ^ (-1080 : Int)) :
    round negative q = zero negative := by
  have hexponent : binaryExponent q < -1080 :=
    (zpow_lt_zpow_iff_right₀ (one_lt_two (α := Rat))).mp
      ((binaryExponent_bounds hq).1.trans_lt hsmall)
  have hgrid : gridExponent q = leastExponent := by
    unfold gridExponent leastExponent
    omega
  have hscaled : q / (2 : Rat) ^ leastExponent < 1 / 2 := by
    rw [div_lt_iff₀ (two_zpow_pos _)]
    calc
      q < (2 : Rat) ^ (-1080 : Int) := hsmall
      _ ≤ 2 ^ (-1 + leastExponent) := zpow_le_zpow_right₀ one_le_two (by decide)
      _ = 1 / 2 * 2 ^ leastExponent := by rw [two_zpow_add, zpow_neg_one, one_div]
  have hsteps : gridSteps q = 0 := by
    unfold gridSteps
    rw [hgrid]
    exact roundHalfEven_of_lt (div_pos hq (two_zpow_pos _)).le hscaled
  rw [round_of_pos hq, hsteps, hgrid]
  rfl

end Double

end Rulebook
