import Rulebook.Proofs.Ordering
import Rulebook.Proofs.Whole
import Rulebook.Value

/-!
# When a displayed number has an exponent

A double is displayed positionally as long as few zeros have to be filled in, and in scientific
notation otherwise. `Numeral.Plain` and `Numeral.Scientific` are the two notations, neither with a
zero that could be left out. Which one is taken depends on the place of the point, and that is where
the size of the number puts it (`Double.Digits.point_ofDecimal`), so it can be said of the number:
plain notation from a millionth up to below 10²¹ (`Double.display_notation`).

What is sent to other programs has the same digits in another layout. `Double.display_reads_back`
compares the two texts of a double: they are numerals for one number, and it reads back.
-/

set_option autoImplicit false

namespace Rulebook

namespace Numeral

/-! ## Notations -/

/-- Whole digits without a zero in front, unless a zero is all there is. -/
structure Whole (s : List Char) : Prop where
  ne_nil : s ≠ []
  digits : ∀ c ∈ s, c.isDigit = true
  first : s.head? = some '0' → s = ['0']

/-- A point and decimal places of which the last one is not zero, or nothing at all. -/
inductive Fraction : List Char → Prop
  | none : Fraction []
  | places {s : List Char} (hne : s ≠ []) (hdigits : ∀ c ∈ s, c.isDigit = true)
    (hlast : s.getLast? ≠ some '0') : Fraction ('.' :: s)

/-- Plain notation, without superfluous zeros. -/
inductive Plain : List Char → Prop
  | mk {whole fraction : List Char} (hwhole : Whole whole) (hfraction : Fraction fraction) :
    Plain (whole ++ fraction)

/-- Scientific notation: one digit other than zero, perhaps a fraction, and an exponent that has a
sign, without superfluous zeros. -/
inductive Scientific : List Char → Prop
  | mk {lead sign : Char} {fraction power : List Char} (hlead : lead.isDigit = true)
    (hne : lead ≠ '0') (hfraction : Fraction fraction) (hsign : sign = '+' ∨ sign = '-')
    (hpower : Whole power) : Scientific (lead :: (fraction ++ 'e' :: sign :: power))

theorem head?_toDigits_ne {n : Nat} (hn : n ≠ 0) : (Nat.toDigits 10 n).head? ≠ some '0' := by
  induction n using Nat.strongRecOn with
  | ind n ih =>
    by_cases hsmall : n < 10
    · have hdigit : ∀ d < 10, d ≠ 0 → Nat.digitChar d ≠ '0' := by decide
      rw [Nat.toDigits_of_lt_base hsmall]
      simpa using hdigit n hsmall hn
    · rw [Nat.toDigits_of_base_le (by decide) (Nat.le_of_not_lt hsmall),
        List.head?_append_of_ne_nil _ Nat.toDigits_ne_nil]
      exact ih (n / 10) (by omega) (by omega)

theorem isDigit_toDigits (n : Nat) : ∀ c ∈ Nat.toDigits 10 n, c.isDigit = true :=
  fun _ => Nat.isDigit_of_mem_toDigits (by decide) (by decide)

theorem whole_toDigits (n : Nat) : Whole (Nat.toDigits 10 n) where
  ne_nil := Nat.toDigits_ne_nil
  digits := isDigit_toDigits n
  first h := by
    by_cases hn : n = 0
    · rw [hn]
      rfl
    · exact absurd h (head?_toDigits_ne hn)

/-- Only in scientific notation there is an exponent. -/
theorem Plain.not_scientific {s : List Char} (h : Plain s) : ¬ Scientific s := by
  have hdigit : ∀ {s : List Char}, (∀ c ∈ s, c.isDigit = true) → 'e' ∉ s :=
    fun hs hmem => absurd (hs _ hmem) (by decide)
  have hplain : 'e' ∉ s := by
    obtain ⟨hwhole, hfraction⟩ := h
    rw [List.mem_append, not_or]
    refine ⟨hdigit hwhole.digits, ?_⟩
    cases hfraction with
    | none => simp
    | places _ hdigits _ => simpa using hdigit hdigits
  rintro ⟨⟩
  simp at hplain

end Numeral

/-! ## Digits and the place of the point -/

namespace Double.Digits

/-- No zero is at either end of the digits. -/
structure Trimmed (d : Digits) : Prop where
  ne_nil : d.text ≠ []
  digits : ∀ c ∈ d.text, c.isDigit = true
  first : d.text.head? ≠ some '0'
  last : d.text.getLast? ≠ some '0'

theorem trimmed_ofDecimal {d : Decimal} (hd : d.coefficient ≠ 0) : (ofDecimal d).Trimmed := by
  obtain ⟨kept, dropped, hdigits, hlast, hshown⟩ := exists_ofDecimal d
  have hfirst := Numeral.head?_toDigits_ne hd
  have hall := Numeral.isDigit_toDigits d.coefficient
  have hne := Nat.toDigits_ne_nil (n := d.coefficient) (b := 10)
  rw [← hdigits] at hfirst hall hne
  rw [hshown]
  cases kept with
  | nil =>
    -- There are only zeros, and one is in front.
    cases dropped with
    | zero => exact absurd rfl hne
    | succ k => exact absurd rfl hfirst
  | cons c kept =>
    exact ⟨List.cons_ne_nil _ _, fun c hc => hall c (List.mem_append_left _ hc), hfirst, hlast⟩

/-- The point is where the size of the number puts it. -/
theorem point_ofDecimal {d : Decimal} (hd : d.coefficient ≠ 0) :
    (10 : Rat) ^ ((ofDecimal d).point - 1) ≤ d.magnitude ∧
      d.magnitude < 10 ^ (ofDecimal d).point := by
  obtain ⟨kept, dropped, hdigits, -, hshown⟩ := exists_ofDecimal d
  obtain ⟨k, hk⟩ : ∃ k, (Nat.toDigits 10 d.coefficient).length = k + 1 :=
    Nat.exists_eq_add_one.mpr (List.length_pos_iff.mpr Nat.toDigits_ne_nil)
  have hpoint : (ofDecimal d).point = (k + 1 : Nat) + d.exponent := by
    rw [hshown, ← hk, ← hdigits, List.length_append, List.length_replicate]
    push_cast
    ring
  have hupper : d.coefficient < 10 ^ (k + 1) :=
    (Nat.length_toDigits_le_iff (by decide) k.succ_pos).mp hk.le
  have hlower : 10 ^ k ≤ d.coefficient := by
    rcases Nat.eq_zero_or_pos k with rfl | hpos
    · exact Nat.one_le_iff_ne_zero.mpr hd
    · by_contra hless
      have := (Nat.length_toDigits_le_iff (b := 10) (by decide) hpos).mpr (Nat.lt_of_not_le hless)
      omega
  have hten := Decimal.ten_zpow_pos d.exponent
  rw [hpoint, show ((k + 1 : Nat) : Int) + d.exponent - 1 = k + d.exponent by omega,
    zpow_add₀ (by norm_num), zpow_add₀ (by norm_num), zpow_natCast, zpow_natCast]
  exact ⟨mul_le_mul_of_nonneg_right (by exact_mod_cast hlower) hten.le,
    mul_lt_mul_of_pos_right (by exact_mod_cast hupper) hten⟩

end Double.Digits

/-! ## The layout of displayed numbers -/

namespace Layout

open Numeral

theorem padded_one (n : Nat) : padded 1 n = Nat.toDigits 10 n := by
  have hlength := List.length_pos_iff.mpr (Nat.toDigits_ne_nil (n := n) (b := 10))
  have hdigits : (toString n).toList = Nat.toDigits 10 n := Nat.toList_repr
  rw [padded, hdigits, Nat.sub_eq_zero_of_le hlength]
  rfl

variable {d : Double.Digits} (h : d.Trimmed)
include h

theorem fraction_drop {n : Nat} (hn : n < d.text.length) : Fraction ('.' :: d.text.drop n) := by
  refine .places (by simpa using hn) (fun c hc => h.digits c (List.mem_of_mem_drop hc)) ?_
  rw [List.getLast?_drop, if_neg (Nat.not_le.mpr hn)]
  exact h.last

/-- Within the window numbers are displayed in plain notation. -/
theorem plain_display (hleast : -5 ≤ d.point) (hgreatest : d.point ≤ 21) :
    Plain (display.write d) := by
  have hzero : ∀ k, ∀ c ∈ List.replicate k '0', c.isDigit = true := by
    intro k c hc
    rw [List.eq_of_mem_replicate hc]
    rfl
  have hwindow : (display.leastPoint ≤ d.point && d.point ≤ display.greatestPoint) = true := by
    simp [display, hleast, hgreatest]
  unfold write
  dsimp only
  rw [if_pos hwindow]
  split_ifs with hbehind hamong
  · -- Zeros are filled in up to the point, none of them in front.
    rw [show display.wholeSuffix.toList = [] from rfl]
    refine .mk ⟨by simp [h.ne_nil], ?_, ?_⟩ .none
    · exact List.forall_mem_append.mpr ⟨h.digits, hzero _⟩
    · rw [List.head?_append_of_ne_nil _ h.ne_nil]
      exact fun hfirst => absurd hfirst h.first
  · -- The point cuts the digits, and their two ends are the ends of the parts.
    refine .mk ⟨?_, ?_, ?_⟩ (fraction_drop h (by omega))
    · simpa [h.ne_nil] using hamong
    · exact fun c hc => h.digits c (List.mem_of_mem_take hc)
    · rw [List.head?_take, if_neg (by omega)]
      exact fun hfirst => absurd hfirst h.first
  · -- The only zero in front of the point is all there is.
    have hplaces : Fraction ('.' :: (List.replicate (-d.point).toNat '0' ++ d.text)) := by
      refine .places (by simp [h.ne_nil]) (List.forall_mem_append.mpr ⟨hzero _, h.digits⟩) ?_
      rw [List.getLast?_append_of_ne_nil _ h.ne_nil]
      exact h.last
    have hplain := Plain.mk (⟨by simp, hzero 1, fun _ => rfl⟩ : Whole ['0']) hplaces
    exact hplain

/-- Outside of it they are displayed in scientific notation. -/
theorem scientific_display (hfar : ¬ (-5 ≤ d.point ∧ d.point ≤ 21)) :
    Scientific (display.write d) := by
  have hwindow : (display.leastPoint ≤ d.point && d.point ≤ display.greatestPoint) = false := by
    rw [Bool.eq_false_iff]
    intro hwithin
    rw [Bool.and_eq_true, decide_eq_true_eq, decide_eq_true_eq] at hwithin
    exact hfar hwithin
  have hsign : ∀ power : Int, (if power < 0 then '-' else '+') = '+' ∨
      (if power < 0 then '-' else '+') = '-' := by
    intro power
    split_ifs <;> simp
  unfold write exponentText
  dsimp only
  rw [hwindow, if_neg Bool.false_ne_true, show display.exponentWidth = 1 from rfl, padded_one]
  cases htext : d.text with
  | nil => exact absurd htext h.ne_nil
  | cons c rest =>
    have hlead : c.isDigit = true := h.digits c (by simp [htext])
    have hne : c ≠ '0' := by
      intro hc
      exact h.first (by rw [htext, hc]; rfl)
    cases rest with
    | nil => exact .mk hlead hne .none (hsign _) (whole_toDigits _)
    | cons c' rest =>
      have hfraction := fraction_drop h (n := 1) (by simp [htext])
      rw [htext] at hfraction
      exact .mk hlead hne hfraction (hsign _) (whole_toDigits _)

end Layout

/-! ## Doubles -/

namespace Double

/-- The window in terms of the number. -/
theorem window_ofDecimal {d : Decimal} (hd : d.coefficient ≠ 0) :
    (-5 ≤ (Digits.ofDecimal d).point ∧ (Digits.ofDecimal d).point ≤ 21) ↔
      (10 : Rat) ^ (-6 : Int) ≤ d.magnitude ∧ d.magnitude < 10 ^ (21 : Int) := by
  obtain ⟨hlower, hupper⟩ := Digits.point_ofDecimal hd
  have hten : (1 : Rat) < 10 := by norm_num
  constructor
  · rintro ⟨hleast, hgreatest⟩
    exact ⟨(zpow_le_zpow_right₀ hten.le (by omega)).trans hlower,
      hupper.trans_le (zpow_le_zpow_right₀ hten.le hgreatest)⟩
  · rintro ⟨hleast, hgreatest⟩
    have hleast' := (zpow_lt_zpow_iff_right₀ hten).mp (hleast.trans_lt hupper)
    have hgreatest' := (zpow_lt_zpow_iff_right₀ hten).mp (hlower.trans_lt hgreatest)
    omega

/-- **A decimal is displayed in plain notation exactly if it is neither small nor large.** -/
theorem display_notation {d : Decimal} (hd : d.coefficient ≠ 0) :
    (Numeral.Plain (Layout.display.write (.ofDecimal d)) ↔
      (10 : Rat) ^ (-6 : Int) ≤ d.magnitude ∧ d.magnitude < 10 ^ (21 : Int)) ∧
    (Numeral.Scientific (Layout.display.write (.ofDecimal d)) ↔
      ¬ ((10 : Rat) ^ (-6 : Int) ≤ d.magnitude ∧ d.magnitude < 10 ^ (21 : Int))) := by
  have htrimmed := Digits.trimmed_ofDecimal hd
  rw [← window_ofDecimal hd]
  by_cases hwindow : -5 ≤ (Digits.ofDecimal d).point ∧ (Digits.ofDecimal d).point ≤ 21
  · have hplain := Layout.plain_display htrimmed hwindow.1 hwindow.2
    simp [hwindow, hplain, hplain.not_scientific]
  · have hscientific := Layout.scientific_display htrimmed hwindow
    have hplain : ¬ Numeral.Plain (Layout.display.write (.ofDecimal d)) :=
      fun hplain => hplain.not_scientific hscientific
    simp [hwindow, hplain, hscientific]

/-- Both zeros are written as numerals for zero, the negative one with a sign where it is kept. -/
theorem exists_spellsDecimal_zero (negative : Bool) :
    ∃ x y : Decimal, Numeral.SpellsDecimal (zero negative).display.toList x ∧
      Numeral.SpellsDecimal (zero negative).exchangeText.toList y ∧ y.toDouble = zero negative ∧
      x.toRat = 0 ∧ y.toRat = 0 := by
  have hspells : ∀ suffix, suffix = [] ∨ suffix = ['.', '0'] →
      Numeral.SpellsMagnitude ('0' :: suffix) 0 := by
    intro suffix hsuffix
    simpa [Text.ofDigits] using
      Layout.spellsMagnitude_whole (Numeral.run_zeros 1) (by simp) 0 hsuffix
  have hdisplay : (zero negative).display = "0" := by
    cases negative <;> rfl
  have hexchange : ∃ before, Numeral.Sign before negative ∧
      (zero negative).exchangeText.toList = before ++ ['0', '.', '0'] := by
    cases negative with
    | false => exact ⟨[], .none, rfl⟩
    | true => exact ⟨['-'], .minus, rfl⟩
  obtain ⟨before, hsign, hbefore⟩ := hexchange
  obtain ⟨x, hx, -, hxsize⟩ := (hspells [] (.inl rfl)).decimal .none
  obtain ⟨y, hy, hysign, hysize⟩ := (hspells _ (.inr rfl)).decimal hsign
  refine ⟨x, y, hdisplay ▸ hx, hbefore ▸ hy, ?_, ?_, ?_⟩
  · rw [Decimal.toDouble_eq_round, hysign, hysize, round, if_pos rfl]
  · rw [Decimal.toRat, hxsize, signed_zero]
  · rw [Decimal.toRat, hysize, signed_zero]

theorem eq_zero_of_toRat? {d : Double} (hd : d.toRat? = some 0) :
    ∃ negative, d = zero negative := by
  cases d with
  | nan => exact nomatch hd
  | infinity negative => exact nomatch hd
  | finite negative m e h =>
    have hsigned : signed negative (magnitude m e) = 0 := Option.some.inj hd
    have hsize : magnitude m e = 0 := by
      rw [← signed_signed negative (magnitude m e), hsigned, signed_zero]
    obtain rfl := magnitude_eq_zero_iff.mp hsize
    obtain ⟨-, -, -, hnormal | rfl⟩ := h
    · exact absurd hnormal (by decide)
    · exact ⟨negative, rfl⟩

/-- **Displayed doubles read back unchanged.** What is displayed of a finite double and what is sent
of it to other programs are decimal numerals. They denote the same number, with the same sign unless
it is zero, and the double is what is read from the second. A zero is displayed as `0` without a
sign. Every other double is displayed with a sign if it is negative, and then in plain notation if
that number is neither small nor large, and in scientific notation if it is. What is read back is
the number that the double stands for. -/
theorem display_reads_back {d : Double} {q : Rat} (hd : d.toRat? = some q) :
    (Value.double d).display = .ok d.display ∧
    (∃ x y : Decimal, Numeral.SpellsDecimal d.display.toList x ∧
      Numeral.SpellsDecimal d.exchangeText.toList y ∧ y.toDouble = d ∧ x.toRat = y.toRat ∧
      (q = 0 → d.display = "0" ∧ y.toRat = 0) ∧
      (q ≠ 0 → x.negative = y.negative ∧ ∃ body,
        d.display.toList = (if q < 0 then '-' :: body else body) ∧
        (Numeral.Plain body ↔
          (10 : Rat) ^ (-6 : Int) ≤ |y.toRat| ∧ |y.toRat| < 10 ^ (21 : Int)) ∧
        (Numeral.Scientific body ↔
          ¬ ((10 : Rat) ^ (-6 : Int) ≤ |y.toRat| ∧ |y.toRat| < 10 ^ (21 : Int))))) ∧
    ∃ n, Numeral.number? d.display.toList = some n ∧ n.eq (.double d) = true := by
  have hplace := place?_eq_rational_iff.mpr hd
  have hnumber : (Numeral.ofDouble d).eq (.double d) = true := by
    rw [Number.eq_of_places (b := .double d) ((Numeral.place?_ofDouble d).trans hplace) hplace]
    exact beq_self_eq_true _
  refine ⟨rfl, ?_, _, Numeral.number?_display (by rintro rfl; exact nomatch hd), hnumber⟩
  by_cases hzero : q = 0
  · subst hzero
    obtain ⟨negative, rfl⟩ := eq_zero_of_toRat? hd
    obtain ⟨x, y, hx, hy, hread, hxzero, hyzero⟩ := exists_spellsDecimal_zero negative
    have hdisplay : (zero negative).display = "0" := by
      cases negative <;> rfl
    exact ⟨x, y, hx, hy, hread, hxzero.trans hyzero.symm, fun _ => ⟨hdisplay, hyzero⟩,
      fun hne => absurd rfl hne⟩
  · cases d with
    | nan => exact nomatch hd
    | infinity negative => exact nomatch hd
    | finite negative m e h =>
      have hq : signed negative (magnitude m e) = q := Option.some.inj hd
      have hm : m ≠ 0 := by
        rintro rfl
        exact hzero (by rw [← hq, magnitude_eq_zero_iff.mpr rfl, signed_zero])
      obtain ⟨x, hx, hxsign, hxsize⟩ := Numeral.exists_spellsDecimal_write .display rfl (.inl rfl)
        "0" "0" "NaN" "Infinity" negative h hm
      obtain ⟨y, hy, hysign, hysize⟩ := Numeral.exists_spellsDecimal_write .exchange rfl (.inr rfl)
        "0.0" "-0.0" "nan" "inf" negative h hm
      have hsize : |y.toRat| = (shortestDecimal m e h).magnitude := by
        rw [Decimal.toRat, abs_signed, hysize, abs_of_nonneg (Decimal.magnitude_nonneg _)]
      have hpositive : 0 < magnitude m e :=
        lt_of_le_of_ne (magnitude_nonneg m e) (Ne.symm (mt magnitude_eq_zero_iff.mp hm))
      have hsign : q < 0 ↔ negative = true := by
        rw [← hq]
        cases negative with
        | false => simpa [signed] using hpositive.le
        | true => simpa [signed] using hpositive
      refine ⟨x, y, hx, hy, ?_, ?_, fun heq => absurd heq hzero, fun _ =>
        ⟨hxsign.trans hysign.symm, _, ?_, hsize ▸
          display_notation (coefficient_shortestDecimal_ne_zero h hm)⟩⟩
      · rw [Numeral.toDouble_of_magnitude_eq h hm hysize, hysign]
      · rw [Decimal.toRat, Decimal.toRat, hxsign, hysign, hxsize, hysize]
      · rw [display, write, if_neg hm, String.toList_ofList]
        simp only [hsign]

/-- Minus five is displayed in plain notation, so what is sent of it denotes a number that is
neither small nor large. -/
theorem display_reads_back_five :
    let d : Double := .finite true 5629499534213120 (-50) (by decide)
    d.toRat? = some (-5) ∧ (-5 : Rat) ≠ 0 ∧ d.display = "-5" ∧
      (∃ y : Decimal, Numeral.SpellsDecimal d.exchangeText.toList y ∧ y.toDouble = d ∧
        (10 : Rat) ^ (-6 : Int) ≤ |y.toRat| ∧ |y.toRat| < 10 ^ (21 : Int)) ∧
      ∃ n, Numeral.number? "-5".toList = some n ∧ n.eq (.double d) = true := by
  intro d
  have hd : d.toRat? = some (-5) := by with_unfolding_all rfl
  have hne : (-5 : Rat) ≠ 0 := by norm_num
  have hdisplay : d.display = "-5" := display_of_whole (n := -5) hd (by decide)
  obtain ⟨-, ⟨x, y, -, hy, hread, -, -, hnotation⟩, hnumber⟩ := display_reads_back hd
  obtain ⟨-, body, hbody, hplain, -⟩ := hnotation hne
  rw [hdisplay, if_pos (by norm_num)] at hbody
  obtain rfl : ['5'] = body := List.cons.inj hbody |>.2
  rw [hdisplay] at hnumber
  refine ⟨hd, hne, hdisplay, ⟨y, hy, hread, hplain.mp ?_⟩, hnumber⟩
  exact .mk (Numeral.whole_toDigits 5) .none

end Double

end Rulebook
