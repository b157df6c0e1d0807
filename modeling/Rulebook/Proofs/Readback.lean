import Rulebook.Literal
import Rulebook.Proofs.Denotation
import Rulebook.Proofs.Written

/-!
# Numbers read back

A number is displayed as a numeral. What is read back is the same number, if the number is a double:
the decimal that is displayed of a double is rounded to it again (`Numeral.number?_display`). Of an
integer all digits are displayed, but they are a decimal like any other, so what is read back is the
nearest double (`Numeral.number?_toString`), and that is the integer only if the integer is one that
a double stands for.
-/

set_option autoImplicit false

namespace Rulebook

namespace Double

variable {m : Nat} {e : Int}

/-! ## The decimal that is displayed -/

/-- A double with its sign replaced. -/
def withSign (negative : Bool) : Double → Double
  | .nan => .nan
  | .infinity _ => .infinity negative
  | .finite _ m e h => .finite negative m e h

/-- Rounding looks at the sign only to put it before what comes out. -/
theorem withSign_round (negative negative' : Bool) (q : Rat) :
    (round negative q).withSign negative' = round negative' q := by
  unfold round ofParts
  dsimp only
  split_ifs <;> rfl

theorem magnitude_exactDecimal (m : Nat) (e : Int) :
    (exactDecimal m e).magnitude = magnitude m e := by
  unfold exactDecimal
  split_ifs with hwhole
  · obtain ⟨k, rfl⟩ := Int.eq_ofNat_of_zero_le hwhole
    simp [Decimal.magnitude, magnitude]
  · -- A negative power of two is as many fives over as many tens.
    obtain ⟨k, rfl⟩ : ∃ k : Nat, e = -k := ⟨(-e).toNat, by omega⟩
    have hten : (10 : Rat) ^ k = 5 ^ k * 2 ^ k := by
      rw [← mul_pow]
      norm_num
    simp only [Decimal.magnitude, magnitude, neg_neg, Int.toNat_natCast, zpow_neg, zpow_natCast,
      Nat.pow_eq, Nat.cast_mul, Nat.cast_pow, Nat.cast_ofNat, hten]
    rw [mul_inv, ← mul_assoc, mul_inv_cancel_right₀ (pow_ne_zero k (by norm_num))]

/-- Whatever is displayed of a double reads back as it: the first candidate that does, or else the
exact expansion. -/
theorem toDouble_shortestDecimal (h : Canonical m e) (hm : m ≠ 0) :
    (shortestDecimal m e h).toDouble = .finite false m e h := by
  unfold shortestDecimal
  dsimp only
  cases hfound : List.find? _ _ with
  | some d => simpa using List.find?_some hfound
  | none =>
    have hpositive : (exactDecimal m e).negative = false := by
      unfold exactDecimal
      split_ifs <;> rfl
    rw [Option.getD_none, Decimal.toDouble_eq_round, hpositive, magnitude_exactDecimal]
    exact round_magnitude false h hm

theorem coefficient_shortestDecimal_ne_zero (h : Canonical m e) (hm : m ≠ 0) :
    (shortestDecimal m e h).coefficient ≠ 0 := by
  intro hzero
  have hread := toDouble_shortestDecimal h hm
  rw [Decimal.toDouble, if_pos hzero] at hread
  exact hm (Double.finite.inj hread).2.1.symm

end Double

namespace Numeral

variable {s : List Char} {d : Double}

/-! ## Numerals hold no blanks -/

theorem isBlank_of_digitValue? {c : Char} {k : Nat} (h : Text.digitValue? c = some k) :
    Text.isBlank c = false := by
  have hapart : ∀ z ∈ Text.digitZeros, ∀ r ∈ Text.blankRanges, z + 10 ≤ r.1 ∨ r.2 < z := by decide
  obtain ⟨z, hz, -⟩ := Option.map_eq_some_iff.mp h
  have hwithin := List.find?_some hz
  simp only [Bool.and_eq_true, decide_eq_true_eq] at hwithin
  rw [Text.isBlank, List.any_eq_false]
  intro r hr
  have := hapart z (List.mem_of_find?_eq_some hz) r hr
  simp only [Bool.and_eq_true, decide_eq_true_eq]
  omega

theorem Run.isBlank {cs : List Char} {ds : List Nat} (h : Run Text.digitValue? cs ds) :
    ∀ c ∈ cs, Text.isBlank c = false := by
  induction h with
  | nil => exact nofun
  | cons hc _ ih => exact List.forall_mem_cons.mpr ⟨isBlank_of_digitValue? hc, ih⟩

theorem Sign.isBlank {negative : Bool} (h : Sign s negative) :
    ∀ c ∈ s, Text.isBlank c = false := by
  cases h with
  | none => exact nofun
  | plus | minus => exact List.forall_mem_singleton.mpr (by decide)

theorem Places.isBlank {ds fs : List Nat} (h : Places s ds fs) :
    ∀ c ∈ s, Text.isBlank c = false := by
  have hpoint : Text.isBlank '.' = false := by decide
  cases h with
  | whole _ hrun => exact hrun.isBlank
  | pointed _ hrun hplaces =>
    exact List.forall_mem_append.mpr
      ⟨hrun.isBlank, List.forall_mem_cons.mpr ⟨hpoint, hplaces.isBlank⟩⟩
  | fraction _ hplaces => exact List.forall_mem_cons.mpr ⟨hpoint, hplaces.isBlank⟩

theorem Exponent.isBlank {x : Int} (h : Exponent s x) : ∀ c ∈ s, Text.isBlank c = false := by
  cases h with
  | none => exact nofun
  | given hletter hsign _ hrun =>
    refine List.forall_mem_cons.mpr ⟨?_, List.forall_mem_append.mpr ⟨hsign.isBlank, hrun.isBlank⟩⟩
    rcases hletter with rfl | rfl <;> decide

theorem SpellsDecimal.isBlank {d : Decimal} (h : SpellsDecimal s d) :
    ∀ c ∈ s, Text.isBlank c = false := by
  cases h with
  | mk hsign hplaces hexponent =>
    exact List.forall_mem_append.mpr
      ⟨hsign.isBlank, List.forall_mem_append.mpr ⟨hplaces.isBlank, hexponent.isBlank⟩⟩

theorem number?_of_spellsDecimal {d : Decimal} (h : SpellsDecimal s d) :
    number? s = some (ofDouble d.toDouble) := by
  have htrim : Text.trim s = s :=
    Text.trim_of_solid (fun c hc => h.isBlank c (List.mem_of_mem_head? hc))
      fun c hc => h.isBlank c (List.mem_of_mem_getLast? hc)
  exact number?_eq_some_iff.mpr (.inr (htrim.symm ▸ .decimal h))

/-! ## Doubles -/

/-- A finite double other than zero is written as the shortest decimal, with its sign. -/
theorem exists_spellsDecimal_write (layout : Layout) (hlead : layout.leadSuffix = "")
    (hwhole : layout.wholeSuffix = "" ∨ layout.wholeSuffix = ".0")
    (zero negativeZero nan infinity : String) (negative : Bool) {m : Nat} {e : Int}
    (h : Double.Canonical m e) (hm : m ≠ 0) :
    ∃ d : Decimal,
      SpellsDecimal (Double.write layout zero negativeZero nan infinity
        (.finite negative m e h)).toList d ∧
      d.negative = negative ∧ d.magnitude = (Double.shortestDecimal m e h).magnitude := by
  have hbody := Layout.write_spellsMagnitude layout hlead hwhole
    (Double.Digits.ofDecimal_denotes (Double.coefficient_shortestDecimal_ne_zero h hm))
  rw [Double.write, if_neg hm, String.toList_ofList]
  cases negative with
  | false => exact hbody.decimal .none
  | true => exact hbody.decimal .minus

/-- Whatever has the sign and the size of the shortest decimal reads back. -/
theorem toDouble_of_magnitude_eq {x : Decimal} {m : Nat} {e : Int} (h : Double.Canonical m e)
    (hm : m ≠ 0) (hx : x.magnitude = (Double.shortestDecimal m e h).magnitude) :
    x.toDouble = .finite x.negative m e h := by
  have hread := Double.toDouble_shortestDecimal h hm
  rw [Decimal.toDouble_eq_round] at hread
  rw [Decimal.toDouble_eq_round, hx, ← Double.withSign_round, hread]
  rfl

/-- **Displayed doubles read back,** as integers if they are whole. -/
theorem number?_display (hd : d ≠ .nan) : number? d.display.toList = some (ofDouble d) := by
  cases d with
  | nan => exact (hd rfl).elim
  | infinity negative => cases negative <;> rfl
  | finite negative m e h =>
    by_cases hm : m = 0
    · subst hm
      have hread : number? "0".toList = some (ofDouble (.zero false)) := rfl
      have hzero : (Double.finite negative 0 e h).display = "0" := by
        cases negative <;> rfl
      -- Both signs of zero are the same integer.
      have hint : ∀ negative e h, ofDouble (.finite negative 0 e h) = .int 0 := by
        intro negative e h
        rw [ofDouble_eq_int_iff]
        simp [Double.toRat?, Double.magnitude]
      rw [hzero, hread, Double.zero, hint, hint]
    · obtain ⟨d, hspells, hnegative, hmagnitude⟩ :=
        exists_spellsDecimal_write .display rfl (.inl rfl) "0" "0" "NaN" "Infinity" negative h hm
      rw [Double.display, number?_of_spellsDecimal hspells,
        toDouble_of_magnitude_eq h hm hmagnitude, hnegative]

/-! ## Integers -/

/-- An integer is written with all its digits. -/
theorem toList_toString (n : Int) :
    (toString n).toList =
      (if n < 0 then '-' :: Nat.toDigits 10 n.natAbs else Nat.toDigits 10 n.natAbs) := by
  rw [Int.toString_eq_repr, Int.repr_eq_if]
  by_cases hnegative : n < 0
  · rw [if_neg (not_le.mpr hnegative), if_pos hnegative, String.toList_append, Nat.toList_repr,
      show (-n).toNat = n.natAbs by omega]
    rfl
  · rw [if_pos (not_lt.mp hnegative), if_neg hnegative, Nat.toList_repr,
      show n.toNat = n.natAbs by omega]

theorem spellsDecimal_toString (n : Int) :
    SpellsDecimal (toString n).toList ⟨n < 0, n.natAbs, 0⟩ := by
  obtain ⟨ds, hds, hrun, hvalue⟩ := exists_run_toDigits n.natAbs
  have hspells : ∀ before, Sign before (n < 0) →
      SpellsDecimal (before ++ Nat.toDigits 10 n.natAbs) ⟨n < 0, n.natAbs, 0⟩ := by
    intro before hsign
    have h := SpellsDecimal.mk hsign (.whole hds hrun) .none
    rwa [List.append_nil, List.append_nil, hvalue] at h
  rw [toList_toString]
  split_ifs with hnegative
  · exact hspells ['-'] (decide_eq_true hnegative ▸ .minus)
  · exact hspells [] (decide_eq_false hnegative ▸ .none)

/-- **An integer is read back as the nearest double.** -/
theorem number?_toString (n : Int) : number? (toString n).toList = some (ofDouble (.ofInt n)) := by
  rw [number?_of_spellsDecimal (spellsDecimal_toString n), Decimal.toDouble_eq_round]
  simp [Decimal.magnitude, Double.ofInt]

end Numeral

/-! ## Literals -/

namespace Literal

theorem read_of_number? {t : String} {n : Number} (h : Numeral.number? t.toList = some n) :
    read t = .number n := by
  rw [read, h]

theorem read_display {d : Double} (hd : d ≠ .nan) : read d.display = .number (Numeral.ofDouble d) :=
  read_of_number? (Numeral.number?_display hd)

theorem read_toString (n : Int) : read (toString n) = .number (Numeral.ofDouble (.ofInt n)) :=
  read_of_number? (Numeral.number?_toString n)

end Literal

/-! ## Integers that doubles stand for -/

namespace Double

variable {n : Int}

theorem ofInt_isNearest (n : Int) : (ofInt n).IsNearest n := by
  have h := round_isNearest (n < 0) (Nat.cast_nonneg (α := Rat) n.natAbs)
  rwa [signed_natAbs] at h

/-- An integer is rounded to itself exactly if a double stands for it. -/
theorem toRat?_ofInt_iff : (ofInt n).toRat? = some (n : Rat) ↔ Representable n := by
  constructor
  · exact fun h => ⟨_, h⟩
  · rintro ⟨d, hd⟩
    have hplace := (isNearest_of_toRat? hd).place?_eq (ofInt_isNearest n)
    rw [← place?_eq_rational_iff] at hd ⊢
    rw [← hplace, hd]

theorem natAbs_lt_of_representable (h : Representable n) : n.natAbs < 2 ^ 1024 := by
  obtain ⟨d, hd⟩ := h
  refine natAbs_truncate?_lt (d := d) ?_
  rw [truncate?, hd, Option.map_some, Rat.floor_intCast, ← Int.cast_neg, Rat.floor_intCast, neg_neg,
    ite_self]

/-- Doubles stand for all integers up to 2⁵³. -/
theorem representable_of_natAbs_le (h : n.natAbs ≤ 2 ^ 53) : Representable n := by
  rcases h.lt_or_eq with hless | hsame
  · exact representable_iff.mpr ⟨n, 0, hless, by decide, by decide, by simp⟩
  · have htwice : n / 2 * 2 = n := by omega
    refine representable_iff.mpr ⟨n / 2, 1, ?_, by decide, by decide, ?_⟩
    · unfold mantissaBound
      omega
    · rw [zpow_one]
      exact_mod_cast htwice.symm

end Double

end Rulebook
