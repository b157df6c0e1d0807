import Rulebook.Proofs.Agreement
import Rulebook.Proofs.Coherence
import Rulebook.Proofs.Display
import Rulebook.Proofs.Range
import Rulebook.Proofs.Whole

/-!
# Values next to their own texts

The text of a value in a trace can be authored as a literal, but a literal is not compared as it
stands: it is read first. What is read is a number if the text is a numeral, a truth value if it is
a word for one, and otherwise the text. `Condition.own_text` says, kind by kind, when a value equals
its own text and when it contains it. A text equals itself unless it is read as a truth value, and
contains itself if the text of the number that it is read as occurs in it. Numbers that are doubles
equal their texts, and contain them unless they are displayed with other digits than they have.
-/

set_option autoImplicit false

namespace Rulebook

namespace Condition

/-! ## Texts inside texts -/

theorem occursIn_iff {part whole : List Char} : occursIn part whole = true ↔ part <:+: whole := by
  induction whole with
  | nil => rw [occursIn, List.isEmpty_iff, List.infix_nil]
  | cons c rest ih =>
    rw [occursIn, Bool.or_eq_true, List.isPrefixOf_iff_prefix, ih, List.infix_cons_iff]

/-- One text contains another if both are there. -/
theorem evaluate_contains {actual : Value} {literal part whole : String}
    (hpart : (Value.ofLiteral literal).display = .ok part) (hwhole : actual.display = .ok whole) :
    evaluate actual "contains" literal = .ok (occursIn part.toList whole.toList) := by
  show evaluate actual Operator.contains.tag literal = _
  rw [evaluate_tag, holds, text, text, hpart, hwhole]
  rfl

theorem evaluate_contains_self {actual : Value} {s : String}
    (h : (Value.ofLiteral s).display = .ok s) (hactual : actual.display = .ok s) :
    evaluate actual "contains" s = .ok true := by
  rw [evaluate_contains h hactual, occursIn_iff.mpr (List.infix_refl _)]

/-! ## Numbers and texts that equal their own texts -/

/-- What counts as the number that its text is read as equals it. -/
theorem evaluate_equal_of_number {actual : Value} {s : String} {m n : Number}
    (hread : Literal.read s = .number n) (hactual : actual.toNumber = .ok m)
    (hnull : actual ≠ .null) (hplace : m.place? = n.place?) (hn : n ≠ .double .nan) :
    evaluate actual "==" s = .ok true := by
  have hnumber : (Value.ofLiteral s).asNumber? = some n := by
    rw [Value.ofLiteral, hread]
    exact Value.asNumber?_ofNumber n
  obtain ⟨p, hp⟩ := Option.ne_none_iff_exists'.mp (mt Number.place?_eq_none_iff.mp hn)
  show evaluate actual Operator.equal.tag s = _
  rw [evaluate_of_comparing (by decide) hnumber hnull, number, hactual]
  show Except.ok (m.eq n) = _
  rw [Number.eq_of_places (hplace.trans hp) hp, beq_self_eq_true]

/-! ## Kind by kind -/

/-- A value equals and contains a text. -/
def Matches (v : Value) (s : String) : Prop :=
  evaluate v "==" s = .ok true ∧ evaluate v "contains" s = .ok true

theorem matches_word (b : Bool) : Matches (.bool b) (Literal.word b) := by
  cases b with
  | false => exact ⟨rfl, rfl⟩
  | true => exact ⟨rfl, rfl⟩

/-- A text equals itself unless it is read as a truth value, which counts as a number. -/
theorem evaluate_equal_text (s : String) :
    evaluate (.text s) "==" s = .ok (decide (∀ b, s ≠ Literal.word b)) := by
  rcases Literal.read_cases s with ⟨n, hn, hread⟩ | ⟨b, rfl, -⟩ | hread
  · have hword : ∀ b, s ≠ Literal.word b := by
      rintro b rfl
      have hnone : Numeral.number? (Literal.word b).toList = none := by
        cases b <;> rfl
      exact absurd (hn.symm.trans hnone) (Option.some_ne_none n)
    have hnumber : (Value.text s).toNumber = .ok n := by
      rw [Value.toNumber, Scalar.numberOfText, hn]
      rfl
    have hnull : Value.text s ≠ .null := by simp
    rw [decide_eq_true hword]
    exact evaluate_equal_of_number hread hnumber hnull rfl (Numeral.number?_ne_nan hn)
  · cases b with
    | false => rfl
    | true => rfl
  · have hword : ∀ b, s ≠ Literal.word b := by
      rintro b rfl
      revert hread
      cases b <;> decide
    show evaluate _ Operator.equal.tag s = _
    rw [decide_eq_true hword, evaluate_tag, Value.ofLiteral, hread]
    simp [holds, Literal.value, Value.looselyEq, Value.isMissing, Value.isCompound, Value.toScalar,
      Scalar.looselyEq, bind, Except.bind, pure, Except.pure, Except.mapError]

/-- A text contains itself if the text of what it is read as occurs in it. -/
theorem evaluate_contains_text (s : String) :
    evaluate (.text s) "contains" s = .ok true ↔
      ∃ part, (Value.ofLiteral s).display = .ok part ∧ part.toList <:+: s.toList := by
  cases hpart : (Value.ofLiteral s).display with
  | error e =>
    have hnone : evaluate (.text s) "contains" s = .error (.display e) := by
      show evaluate _ Operator.contains.tag s = _
      rw [evaluate_tag, holds, text, hpart]
      rfl
    rw [hnone]
    exact ⟨nofun, fun ⟨_, h, _⟩ => nomatch h⟩
  | ok part =>
    have hactual : (Value.text s).display = .ok s := rfl
    simp [evaluate_contains hpart hactual, occursIn_iff]

theorem evaluate_contains_of_not_numeral {s : String} (hs : Numeral.number? s.toList = none) :
    evaluate (.text s) "contains" s = .ok true := by
  rcases Literal.read_cases s with ⟨n, hn, -⟩ | ⟨b, rfl, -⟩ | hread
  · exact absurd (hn.symm.trans hs) nofun
  · cases b <;> rfl
  · exact evaluate_contains_self (by rw [Value.ofLiteral, hread]; rfl) rfl

/-- An integer that a double stands for has a text, equals it and contains it. -/
theorem matches_toString {n : Int} (hn : Double.Representable n) :
    displayInt n = .ok (toString n) ∧ Matches (.int n) (toString n) := by
  have hdisplay : displayInt n = .ok (toString n) := displayInt_eq_ok_iff.mpr
    ⟨(Double.natAbs_lt_of_representable hn).trans two_pow_lt_digitBound, rfl⟩
  have hread : Literal.read (toString n) = .number (.int n) := by
    rw [Literal.read_toString, Numeral.ofDouble_eq_int_iff.mpr (Double.toRat?_ofInt_iff.mpr hn)]
  refine ⟨hdisplay, evaluate_equal_of_number hread rfl nofun rfl nofun, ?_⟩
  exact evaluate_contains_self (by rw [Value.ofLiteral, hread]; exact hdisplay) hdisplay

/-- A double contains its text unless it is whole and its digits are not those displayed. -/
theorem evaluate_contains_double {d : Double} (hd : d ≠ .nan) :
    ∃ b, evaluate (.double d) "contains" d.display = .ok b ∧
      (b = true ↔ ∀ n : Int, d.toRat? = some (n : Rat) →
        (toString n).toList <:+: d.display.toList) := by
  have hread := Literal.read_display hd
  cases hn : Numeral.ofDouble d with
  | int n =>
    have hwhole := Numeral.ofDouble_eq_int_iff.mp hn
    have hpart : (Value.ofLiteral d.display).display = .ok (toString n) := by
      rw [Value.ofLiteral, hread, hn]
      exact (matches_toString ⟨d, hwhole⟩).1
    refine ⟨_, evaluate_contains hpart rfl, ?_⟩
    rw [occursIn_iff]
    refine ⟨fun h k hk => ?_, fun h => h n hwhole⟩
    obtain rfl : n = k := Int.cast_injective (Option.some.inj (hwhole.symm.trans hk))
    exact h
  | double x =>
    obtain ⟨rfl, hnot⟩ := Numeral.ofDouble_eq_double_iff.mp hn
    have hpart : (Value.ofLiteral d.display).display = .ok d.display := by
      rw [Value.ofLiteral, hread, hn]
      rfl
    exact ⟨true, evaluate_contains_self hpart rfl, fun _ n h => absurd h (hnot n), fun _ => rfl⟩

/-- Whole doubles below 2⁵³ are displayed with the digits that they have. -/
theorem evaluate_contains_of_small {d : Double} {n : Int} (hn : d.toRat? = some (n : Rat))
    (hsmall : n.natAbs < 2 ^ 53) : evaluate (.double d) "contains" d.display = .ok true := by
  have hnan : d ≠ .nan := by
    rintro rfl
    exact nomatch hn
  obtain ⟨b, hb, hiff⟩ := evaluate_contains_double hnan
  rw [hb, hiff.mpr]
  intro k hk
  obtain rfl : n = k := Int.cast_injective (Option.some.inj (hn.symm.trans hk))
  have hsame : (toString n).toList = d.display.toList :=
    congrArg String.toList (Double.display_of_whole hn hsmall).symm
  exact hsame ▸ List.infix_refl (toString n).toList

/-- A double other than no number equals what it is displayed as. -/
theorem evaluate_equal_double {d : Double} (hd : d ≠ .nan) :
    evaluate (.double d) "==" d.display = .ok true :=
  evaluate_equal_of_number (Literal.read_display hd) rfl nofun (Numeral.place?_ofDouble d).symm
    (Numeral.ofDouble_ne_nan hd)

/-- **When values match their own texts.** Truth values do. A text equals itself unless it is a word
for a truth value, and contains itself if the text of what it is read as occurs in it, which is so
whenever it is no numeral. A double, other than no number, equals its text, and contains it unless
it is whole and has other digits than are displayed, which no double below 2⁵³ has. Integers that
doubles stand for match their texts. -/
theorem own_text :
    (∀ b, (Value.bool b).display = .ok (Literal.word b) ∧ Matches (.bool b) (Literal.word b)) ∧
    (∀ s, (Value.text s).display = .ok s ∧
      evaluate (.text s) "==" s = .ok (decide (∀ b, s ≠ Literal.word b)) ∧
      (evaluate (.text s) "contains" s = .ok true ↔
        ∃ part, (Value.ofLiteral s).display = .ok part ∧ part.toList <:+: s.toList) ∧
      (Numeral.number? s.toList = none → evaluate (.text s) "contains" s = .ok true)) ∧
    (∀ d : Double, d ≠ .nan → (Value.double d).display = .ok d.display ∧
      evaluate (.double d) "==" d.display = .ok true ∧
      (∃ b, evaluate (.double d) "contains" d.display = .ok b ∧
        (b = true ↔ ∀ n : Int, d.toRat? = some (n : Rat) →
          (toString n).toList <:+: d.display.toList)) ∧
      ∀ n : Int, d.toRat? = some (n : Rat) → n.natAbs < 2 ^ 53 →
        evaluate (.double d) "contains" d.display = .ok true) ∧
    ∀ n : Int, Double.Representable n →
      (Value.int n).display = .ok (toString n) ∧ Matches (.int n) (toString n) := by
  refine ⟨fun b => ⟨rfl, matches_word b⟩, fun s => ?_, fun d hd => ?_,
    fun n hn => matches_toString hn⟩
  · exact ⟨rfl, evaluate_equal_text s, evaluate_contains_text s, evaluate_contains_of_not_numeral⟩
  · exact ⟨rfl, evaluate_equal_double hd, evaluate_contains_double hd,
      fun n hn hsmall => evaluate_contains_of_small hn hsmall⟩

/-- A word that is no numeral matches its text, and so does five as a double and as an integer. -/
theorem own_text_five :
    Numeral.number? "gold".toList = none ∧ evaluate (.text "gold") "contains" "gold" = .ok true ∧
      Double.ofInt 5 ≠ .nan ∧ (Double.ofInt 5).toRat? = some ((5 : Int) : Rat) ∧
      (5 : Int).natAbs < 2 ^ 53 ∧
      evaluate (.double (.ofInt 5)) "contains" (Double.ofInt 5).display = .ok true ∧
      Double.Representable ((5 : Int) : Rat) ∧ Matches (.int 5) (toString (5 : Int)) := by
  have hgold : Numeral.number? "gold".toList = none := rfl
  have hnan : Double.ofInt 5 ≠ .nan := Double.round_ne_nan _ _
  have hsmall : (5 : Int).natAbs < 2 ^ 53 := by decide
  have hfive : Double.Representable ((5 : Int) : Rat) :=
    Double.representable_of_natAbs_le hsmall.le
  have hvalue := Double.toRat?_ofInt_iff.mpr hfive
  obtain ⟨-, htexts, hdoubles, hintegers⟩ := own_text
  exact ⟨hgold, (htexts "gold").2.2.2 hgold, hnan, hvalue, hsmall,
    (hdoubles _ hnan).2.2.2 5 hvalue hsmall, hfive, (hintegers 5 hfive).2⟩

/-- **Not every text matches itself.** A word for a truth value does not equal itself, and a number
with an exponent does not contain itself. -/
theorem own_text_missed :
    evaluate (.text "true") "==" "true" = .ok false ∧
      evaluate (.text "1e3") "contains" "1e3" = .ok false := by
  refine ⟨rfl, ?_⟩
  have hread : Value.ofLiteral "1e3" = .int 1000 := by with_unfolding_all rfl
  have hpart : (Value.ofLiteral "1e3").display = .ok "1000" := by
    rw [hread]
    exact displayInt_of_lt (by decide)
  rw [evaluate_contains hpart rfl]
  rfl

end Condition

end Rulebook
