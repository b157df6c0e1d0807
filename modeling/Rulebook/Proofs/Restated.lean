import Rulebook.Proofs.Agreement
import Rulebook.Proofs.Display
import Rulebook.Proofs.Range
import Rulebook.Proofs.Readback

/-!
# Literals restated

A literal stands for a value, and the value has a text of its own, which is a literal again. The two
mean the same, whatever the first one is, with one exception: an integer that is written in base
sixteen, eight or two is taken exactly, and its decimal text is not. `Literal.restated_iff` says
which of these keep their meaning: those that a double stands for.
-/

set_option autoImplicit false

namespace Rulebook

namespace Literal

variable {t : String} {n : Number}

/-- The value of a literal has a text, which means the same as the literal. -/
def Restated (m : Literal) : Prop :=
  ∃ s, m.value.display = .ok s ∧ read s = m

theorem restated_truth (b : Bool) : Restated (.truth b) := by
  cases b with
  | false => exact ⟨"false", rfl, rfl⟩
  | true => exact ⟨"true", rfl, rfl⟩

/-- An integer keeps its meaning if a double stands for it. Then it is not too long either. -/
theorem restated_int_iff {k : Int} :
    Restated (.number (.int k)) ↔ Double.Representable (k : Rat) := by
  have hread : read (toString k) = .number (.int k) ↔ Double.Representable (k : Rat) := by
    rw [read_toString, number.injEq, Numeral.ofDouble_eq_int_iff, Double.toRat?_ofInt_iff]
  constructor
  · rintro ⟨s, hs, hs'⟩
    obtain ⟨-, rfl⟩ := displayInt_eq_ok_iff.mp hs
    exact hread.mp hs'
  · intro h
    have hshort := (Double.natAbs_lt_of_representable h).trans two_pow_lt_digitBound
    exact ⟨toString k, displayInt_eq_ok_iff.mpr ⟨hshort, rfl⟩, hread.mpr h⟩

/-- A double that is no integer keeps its meaning. -/
theorem restated_double {d : Double} (hnan : d ≠ .nan) (hd : Numeral.ofDouble d = .double d) :
    Restated (.number (.double d)) :=
  ⟨d.display, rfl, (read_display hnan).trans (congrArg number hd)⟩

/-- What is authored in another base is taken exactly. All other numbers come from doubles, and what
is no number is a truth value or a text. -/
theorem read_radix_or (t : String) :
    (∃ n : Nat, Numeral.SpellsRadix (Text.trim t.toList) n ∧ read t = .number (.int n)) ∨
      (∀ n, ¬ Numeral.SpellsRadix (Text.trim t.toList) n) ∧
        ((∃ k : Int, Double.Representable k ∧ read t = .number (.int k)) ∨
          (∃ d : Double, d ≠ .nan ∧ Numeral.ofDouble d = .double d ∧
            read t = .number (.double d)) ∨
          (∃ b, read t = .truth b) ∨ read t = .text t) := by
  by_cases hradix : ∃ n, Numeral.SpellsRadix (Text.trim t.toList) n
  · obtain ⟨n, hn⟩ := hradix
    have hread := Numeral.number?_eq_some_iff_denotes.mpr (.radix hn)
    exact .inl ⟨n, hn, read_of_number? hread⟩
  · refine .inr ⟨not_exists.mp hradix, ?_⟩
    rcases read_cases t with ⟨n, hn, hread⟩ | ⟨b, -, hread⟩ | hread
    · cases Numeral.number?_eq_some_iff_denotes.mp hn with
      | nothing hs => exact .inl ⟨0, Double.representable_of_natAbs_le (by decide), hread⟩
      | @infinity negative hs => exact .inr (.inl ⟨.infinity negative, nofun, rfl, hread⟩)
      | radix hs => exact absurd ⟨_, hs⟩ hradix
      | whole hs hnearest hwhole => exact .inl ⟨_, ⟨_, hwhole⟩, hread⟩
      | double hs hnearest hnot =>
        refine .inr (.inl ⟨_, ?_, Numeral.ofDouble_eq_double_iff.mpr ⟨rfl, hnot⟩, hread⟩)
        rintro rfl
        exact nomatch hnearest
    · exact .inr (.inr (.inl ⟨b, hread⟩))
    · exact .inr (.inr (.inr hread))

theorem forall_spellsRadix_iff {s : List Char} {n : Nat} {p : Nat → Prop}
    (h : Numeral.SpellsRadix s n) : (∀ k, Numeral.SpellsRadix s k → p k) ↔ p n := by
  refine ⟨fun hall => hall n h, fun hn k hk => ?_⟩
  have hsame := (Numeral.radixInteger?_eq_some_iff.mpr h).symm.trans
    (Numeral.radixInteger?_eq_some_iff.mpr hk)
  exact Option.some.inj hsame ▸ hn

/-- **A literal means the same as the text of its value,** unless it is an integer in base sixteen,
eight or two that no double stands for. Such an integer has a text too if it is not too long, and
every other value of a literal has one. -/
theorem restated_iff (t : String) :
    ((∃ s, (read t).value.display = .ok s ∧ read s = read t) ↔
      ∀ n, Numeral.SpellsRadix (Text.trim t.toList) n → Double.Representable (n : Rat)) ∧
    ((∃ s, (read t).value.display = .ok s) ↔
      ∀ n, Numeral.SpellsRadix (Text.trim t.toList) n → n < digitBound) := by
  rcases read_radix_or t with ⟨n, hn, hread⟩ | ⟨hnone, hkind⟩
  · rw [forall_spellsRadix_iff hn, forall_spellsRadix_iff hn, hread]
    exact ⟨restated_int_iff, exists_displayInt_eq_ok⟩
  · have hrestated : Restated (read t) := by
      rcases hkind with ⟨k, hk, hread⟩ | ⟨d, hnan, hd, hread⟩ | ⟨b, hread⟩ | hread
      · exact hread ▸ restated_int_iff.mpr hk
      · exact hread ▸ restated_double hnan hd
      · exact hread ▸ restated_truth b
      · exact ⟨t, by rw [hread]; rfl, rfl⟩
    obtain ⟨s, hs, hsame⟩ := hrestated
    exact ⟨⟨fun _ n hn => absurd hn (hnone n), fun _ => ⟨s, hs, hsame⟩⟩,
      ⟨fun _ n hn => absurd hn (hnone n), fun _ => ⟨s, hs⟩⟩⟩

/-- **The integer after 2⁵³ keeps its meaning in base sixteen only.** -/
theorem not_every_literal_restated :
    ¬ ∀ t, ∃ s, (read t).value.display = .ok s ∧ read s = read t := by
  intro h
  obtain ⟨s, hs, hread⟩ := h "0x20000000000001"
  have hdisplay : (read "0x20000000000001").value.display = .ok "9007199254740993" :=
    displayInt_of_lt (n := 9007199254740993) (by decide)
  have hdiffers : read "9007199254740993" ≠ read "0x20000000000001" := by
    with_unfolding_all decide
  obtain rfl := Except.ok.inj (hdisplay.symm.trans hs)
  exact hdiffers hread

end Literal

end Rulebook
