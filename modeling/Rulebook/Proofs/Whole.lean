import Rulebook.Proofs.Readback

/-!
# How whole doubles are displayed

The shortest decimal of a double need not be its exact value: beyond 2⁵³ a whole double is displayed
with zeros where it has other digits. Below, all integers are doubles, so no other decimal without
decimal places reads back as it, and `Double.display_of_whole` says that what is displayed is the
integer.

The candidates are tried by their number of digits. As many digits as the integer has are enough,
and with no more digits than that there are no decimal places.
-/

set_option autoImplicit false

namespace Rulebook

/-! ## Zeros at the end -/

/-- A power of ten puts as many zeros behind the digits. -/
theorem Text.toDigits_mul_ten_pow {n : Nat} (hn : 0 < n) (k : Nat) :
    Nat.toDigits 10 (n * 10 ^ k) = Nat.toDigits 10 n ++ List.replicate k '0' := by
  induction k with
  | zero => simp
  | succ k ih =>
    have hpos : 0 < n * 10 ^ k := Nat.mul_pos hn (Nat.pow_pos (by decide))
    have hzero := Nat.toDigits_append_toDigits (b := 10) (d := 0) (by decide) hpos (by decide)
    have hpower : 10 * (n * 10 ^ k) + 0 = n * 10 ^ (k + 1) := by ring
    rw [← hpower, ← hzero, ih, List.append_assoc, List.replicate_succ']
    rfl

/-- Positionally, zeros are displayed up to a point that is behind the digits. -/
theorem Layout.display_write_of_behind {d : Double.Digits}
    (hbehind : (d.text.length : Int) ≤ d.point) (hpoint : d.point ≤ 21) :
    display.write d = d.text ++ List.replicate (d.point - d.text.length).toNat '0' := by
  have hleast : display.leastPoint ≤ d.point := by
    show -5 ≤ d.point
    omega
  have hwindow : (display.leastPoint ≤ d.point && d.point ≤ display.greatestPoint) = true := by
    rw [Bool.and_eq_true, decide_eq_true_eq, decide_eq_true_eq]
    exact ⟨hleast, hpoint⟩
  rw [write]
  dsimp only
  rw [if_pos hwindow, if_pos hbehind]
  exact List.append_nil _

namespace Double

variable {m N : Nat} {e : Int}

theorem roundHalfEven_natCast (N : Nat) : roundHalfEven N = N := by
  have hnearest := (roundHalfEven_nearest N.cast_nonneg N).1
  rw [Int.cast_natCast, sub_self, abs_zero] at hnearest
  have hsame := sub_eq_zero.mp (abs_nonpos_iff.mp hnearest)
  exact (Nat.cast_injective hsame).symm

theorem toNat_floor_mul_ten_pow (N k : Nat) :
    ((N : Rat) * 10 ^ k).floor.toNat = N * 10 ^ k := by
  have hcast : (N : Rat) * 10 ^ k = ((N * 10 ^ k : Nat) : Int) := by push_cast; rfl
  rw [hcast, Rat.floor_intCast, Int.toNat_natCast]

/-- The point of a whole number is behind its digits. -/
theorem decimalPoint_natCast (hN : 0 < N) :
    decimalPoint (N : Rat) = ((Nat.toDigits 10 N).length : Int) := by
  have hdigits : (toString (N * 10 ^ 400)).length = (Nat.toDigits 10 N).length + 400 := by
    rw [← String.length_toList, Nat.toString_eq_ofList_toDigits, String.toList_ofList,
      Text.toDigits_mul_ten_pow hN, List.length_append, List.length_replicate]
  rw [decimalPoint, toNat_floor_mul_ten_pow, hdigits]
  omega

/-- A whole decimal that is read as a double below 2⁵³ is the integer that the double stands for. -/
theorem eq_of_toDouble_eq {d : Decimal} {M : Nat} (h : Canonical m e) (hvalue : magnitude m e = N)
    (hN : N < 2 ^ 53) (hd : d.toRat = M) (hread : d.toDouble = .finite false m e h) : M = N := by
  have hnearest := d.toDouble_isNearest
  rw [hread, hd] at hnearest
  have hrep : ∀ k : Nat, k ≤ 2 ^ 53 → Representable (k : Rat) := fun k hk => by
    exact_mod_cast representable_of_natAbs_le (n := k) hk
  rcases Nat.lt_or_ge M (2 ^ 53) with hless | hge
  · obtain ⟨x, hx⟩ := hrep M hless.le
    have hplace := hnearest.place?_eq (isNearest_of_toRat? hx)
    rw [place?_eq_rational_iff.mpr hx, place?_finite, signed, hvalue] at hplace
    exact (Nat.cast_injective (Place.rational.inj (Option.some.inj hplace))).symm
  · -- 2⁵³ would be nearer to it.
    cases hnearest with
    | finite hrange hleast heven =>
      have hnearer := hleast _ (hrep (2 ^ 53) (le_refl _))
      have hge' : ((2 ^ 53 : Nat) : Rat) ≤ M := Nat.cast_le.mpr hge
      have hN' : (N : Rat) < (2 ^ 53 : Nat) := Nat.cast_lt.mpr hN
      have hvalue' : signed false (magnitude m e) = N := hvalue
      rw [hvalue', abs_of_nonneg (by linarith), abs_of_nonneg (by linarith)] at hnearer
      linarith

theorem mantissa_ne_zero (hvalue : magnitude m e = N) (hpos : 0 < N) : m ≠ 0 := by
  rw [Ne, ← magnitude_eq_zero_iff (e := e), hvalue, Nat.cast_eq_zero]
  exact hpos.ne'

theorem of_mem_neighbours {q : Rat} {point : Int} {count : Nat} {d : Decimal}
    (hd : d ∈ neighbours q point count) : d.negative = false ∧ d.exponent = point - count := by
  simp only [neighbours, List.mem_cons, List.not_mem_nil, or_false] at hd
  rcases hd with rfl | rfl <;> exact ⟨rfl, rfl⟩

/-- The shortest decimal of a whole number is found with no more digits than the number has. -/
theorem shortestDecimal_mem (h : Canonical m e) (hvalue : magnitude m e = N) (hpos : 0 < N)
    (hN : (Nat.toDigits 10 N).length ≤ 17) :
    shortestDecimal m e h ∈ (List.range (Nat.toDigits 10 N).length).flatMap fun i =>
      neighbours N (Nat.toDigits 10 N).length (i + 1) := by
  obtain ⟨rest, hrest⟩ := Nat.exists_eq_add_of_le hN
  have hrange : List.range 17 = List.range (Nat.toDigits 10 N).length ++
      (List.range rest).map ((Nat.toDigits 10 N).length + ·) := by
    rw [hrest, List.range_add]
  -- With all its digits the number is a candidate itself.
  have hcandidate : (⟨false, N, 0⟩ : Decimal) ∈
      (List.range (Nat.toDigits 10 N).length).flatMap fun i =>
        neighbours N (Nat.toDigits 10 N).length (i + 1) := by
    have hlength := List.length_pos_iff.mpr (Nat.toDigits_ne_nil (n := N) (b := 10))
    refine List.mem_flatMap.mpr ⟨(Nat.toDigits 10 N).length - 1, ?_, ?_⟩
    · exact List.mem_range.mpr (Nat.sub_lt hlength Nat.one_pos)
    · rw [Nat.sub_add_cancel hlength, neighbours, sub_self, zpow_zero, div_one,
        roundHalfEven_natCast]
      exact List.mem_cons_self
  have hreads : (⟨false, N, 0⟩ : Decimal).toDouble = .finite false m e h := by
    rw [Decimal.toDouble_eq_round, Decimal.magnitude, zpow_zero, mul_one, ← hvalue]
    exact round_magnitude false h (mantissa_ne_zero hvalue hpos)
  obtain ⟨d, hd⟩ : ∃ d, List.find? (fun d => d.toDouble == .finite false m e h)
      ((List.range (Nat.toDigits 10 N).length).flatMap fun i =>
        neighbours N (Nat.toDigits 10 N).length (i + 1)) = some d :=
    Option.isSome_iff_exists.mp
      (List.find?_isSome.mpr ⟨_, hcandidate, beq_iff_eq.mpr hreads⟩)
  unfold shortestDecimal
  dsimp only
  rw [hvalue, decimalPoint_natCast hpos, hrange, List.flatMap_append, List.find?_append, hd]
  exact List.mem_of_find?_eq_some hd

/-- Digits of a whole decimal are displayed with the zeros that its exponent stands for. -/
theorem display_write_of_whole {d : Decimal} {x : Nat} (hd : d.exponent = x)
    (hpos : 0 < d.coefficient)
    (hlength : (Nat.toDigits 10 (d.coefficient * 10 ^ x)).length ≤ 21) :
    Layout.display.write (.ofDecimal d) = Nat.toDigits 10 (d.coefficient * 10 ^ x) := by
  obtain ⟨kept, dropped, hdigits, -, hshown⟩ := Digits.exists_ofDecimal d
  rw [Text.toDigits_mul_ten_pow hpos, ← hdigits, List.length_append, List.length_append,
    List.length_replicate, List.length_replicate] at hlength
  rw [hd] at hshown
  have hzeros : ((kept.length + x + dropped : Int) - kept.length).toNat = dropped + x := by omega
  have hbehind : (kept.length : Int) ≤ kept.length + x + dropped := by omega
  have hpoint : (kept.length + x + dropped : Int) ≤ 21 := by omega
  rw [hshown, Layout.display_write_of_behind hbehind hpoint, hzeros, List.replicate_add,
    ← List.append_assoc, hdigits, Text.toDigits_mul_ten_pow hpos]

theorem display_write_shortestDecimal (h : Canonical m e) (hvalue : magnitude m e = N)
    (hpos : 0 < N) (hN : N < 2 ^ 53) :
    Layout.display.write (.ofDecimal (shortestDecimal m e h)) = Nat.toDigits 10 N := by
  have hlength : (Nat.toDigits 10 N).length ≤ 16 :=
    (Nat.length_toDigits_le_iff (by decide) (by decide)).mpr (hN.trans (by decide))
  have hm := mantissa_ne_zero hvalue hpos
  obtain ⟨i, hi, hmem⟩ := List.mem_flatMap.mp
    (shortestDecimal_mem h hvalue hpos (hlength.trans (by decide)))
  obtain ⟨hnegative, hexponent⟩ := of_mem_neighbours hmem
  obtain ⟨x, hx⟩ : ∃ x : Nat, (shortestDecimal m e h).exponent = x := by
    have := List.mem_range.mp hi
    exact ⟨(Nat.toDigits 10 N).length - (i + 1), by omega⟩
  have hmagnitude : (shortestDecimal m e h).toRat =
      ((shortestDecimal m e h).coefficient * 10 ^ x : Nat) := by
    rw [Decimal.toRat, hnegative, Decimal.magnitude, hx, zpow_natCast]
    push_cast
    rfl
  have hsame := eq_of_toDouble_eq h hvalue hN hmagnitude (toDouble_shortestDecimal h hm)
  rw [← hsame] at hlength ⊢
  exact display_write_of_whole hx
    (Nat.pos_of_ne_zero (coefficient_shortestDecimal_ne_zero h hm)) (hlength.trans (by decide))

/-- **Below 2⁵³ whole doubles are displayed as integers.** -/
theorem display_of_whole {d : Double} {n : Int} (hd : d.toRat? = some (n : Rat))
    (hn : n.natAbs < 2 ^ 53) : d.display = toString n := by
  cases d with
  | nan => exact nomatch hd
  | infinity negative => exact nomatch hd
  | finite negative m e h =>
    have hsigned : signed negative (magnitude m e) = n := Option.some.inj hd
    have hvalue : magnitude m e = n.natAbs := by
      have habs := congrArg abs hsigned
      rwa [abs_signed, abs_of_nonneg (magnitude_nonneg m e), ← Int.cast_abs,
        ← Nat.cast_natAbs] at habs
    rw [← String.toList_inj, Numeral.toList_toString, display, write]
    rcases Nat.eq_zero_or_pos n.natAbs with hzero | hpos
    · -- Both zeros are displayed without a sign.
      rw [hzero, Nat.cast_zero] at hvalue
      have hm := magnitude_eq_zero_iff.mp hvalue
      obtain rfl := Int.natAbs_eq_zero.mp hzero
      rw [if_pos hm, ite_self, if_neg (lt_irrefl _)]
      rfl
    · have hm := mantissa_ne_zero hvalue hpos
      have hsign : negative = decide (n < 0) := by
        rw [hvalue, ← signed_natAbs n] at hsigned
        exact eq_of_signed_eq (Nat.cast_ne_zero.mpr hpos.ne') hsigned
      rw [if_neg hm, display_write_shortestDecimal h hvalue hpos hn, String.toList_ofList, hsign]
      simp only [decide_eq_true_eq]

end Double

end Rulebook
