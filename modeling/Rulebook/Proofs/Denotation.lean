import Rulebook.Proofs.Nearest
import Rulebook.Proofs.Spelling

/-!
# What a numeral denotes

`Numeral.Denotes` says which number each numeral denotes, without rounding anything: of a decimal it
only asks that the double be nearest, and that it be given as an integer exactly if it is whole.
`Numeral.numeral_denotes` says that the reader gives this number for every numeral and none for
anything else. That a numeral denotes one number only is part of it, and comes from there being one
nearest double.
-/

set_option autoImplicit false

namespace Rulebook

/-! ## Whole doubles -/

namespace Double

variable {d : Double} {q : Rat} {n : Int}

theorem place?_eq_rational_iff : d.place? = some (.rational q) ↔ d.toRat? = some q := by
  cases d with
  | nan => exact ⟨nofun, nofun⟩
  | infinity negative => cases negative <;> exact ⟨nofun, nofun⟩
  | finite negative m e h => simp [place?, toRat?]

theorem toInt?_eq_some_iff : d.toInt? = some n ↔ d.toRat? = some (n : Rat) := by
  unfold toInt?
  cases d.toRat? with
  | none => exact ⟨nofun, nofun⟩
  | some q =>
    constructor
    · intro h
      dsimp only at h
      split_ifs at h with hden
      obtain rfl := Option.some.inj h
      exact congrArg some ((Rat.den_eq_one_iff q).mp hden).symm
    · intro h
      obtain rfl := Option.some.inj h
      rfl

end Double

namespace Numeral

variable {d x : Double} {n : Int}

theorem ofDouble_eq_int_iff : ofDouble d = .int n ↔ d.toRat? = some (n : Rat) := by
  rw [← Double.toInt?_eq_some_iff, ofDouble]
  cases d.toInt? with
  | none => exact ⟨nofun, nofun⟩
  | some k => simp

theorem ofDouble_eq_double_iff :
    ofDouble d = .double x ↔ d = x ∧ ∀ n : Int, d.toRat? ≠ some (n : Rat) := by
  simp only [Ne, ← Double.toInt?_eq_some_iff, ofDouble]
  cases d.toInt? with
  | none => simp
  | some k => simp

/-- What is made an integer stays where it is. -/
theorem place?_ofDouble (d : Double) : (ofDouble d).place? = d.place? := by
  cases h : ofDouble d with
  | int n => exact (Double.place?_eq_rational_iff.mpr (ofDouble_eq_int_iff.mp h)).symm
  | double x =>
    obtain ⟨rfl, -⟩ := ofDouble_eq_double_iff.mp h
    rfl

/-- Two doubles with one place are one number: they differ in the sign of zero only, and zero is
an integer. -/
theorem ofDouble_eq_of_place?_eq (hnan : d ≠ .nan) (h : d.place? = x.place?) :
    ofDouble d = ofDouble x := by
  by_cases hzero : d.place? = some (.rational 0)
  · have hint : ∀ y : Double, y.place? = some (.rational 0) → ofDouble y = .int 0 := fun y hy =>
      ofDouble_eq_int_iff.mpr (by exact_mod_cast Double.place?_eq_rational_iff.mp hy)
    rw [hint d hzero, hint x (h ▸ hzero)]
  · have hplace : d.place? ≠ none := by
      cases d with
      | nan => exact (hnan rfl).elim
      | infinity negative => exact nofun
      | finite negative m e hcanonical => exact nofun
    rw [Double.eq_of_place?_eq h hplace hzero]

/-! ## The numbers that numerals denote -/

/-- Zero, a letter for a base and digits of that base, and the integer that these denote. -/
def SpellsRadix (s : List Char) (n : Nat) : Prop :=
  ∃ letter base cs ds, s = '0' :: letter :: cs ∧ radix? letter = some base ∧ ds ≠ [] ∧
    Run (Text.radixDigit? base) cs ds ∧ n = Text.ofDigits base ds

/-- Infinity with or without a sign, and whether it is negative. -/
def SpellsInfinity (s : List Char) (negative : Bool) : Prop :=
  ∃ before, s = before ++ "Infinity".toList ∧ Sign before negative

/-- The texts that are numerals, nothing at all among them. -/
def IsNumeral (s : List Char) : Prop :=
  s = [] ∨ (∃ negative, SpellsInfinity s negative) ∨ (∃ n, SpellsRadix s n) ∨
    ∃ d, SpellsDecimal s d

/-- The number that a numeral denotes. A decimal denotes the double nearest to it, as an integer
exactly if that double is whole. -/
inductive Denotes (s : List Char) : Number → Prop
  | nothing (hs : s = []) : Denotes s (.int 0)
  | infinity {negative : Bool} (hs : SpellsInfinity s negative) :
    Denotes s (.double (.infinity negative))
  | radix {n : Nat} (hs : SpellsRadix s n) : Denotes s (.int n)
  | whole {d : Decimal} {x : Double} {n : Int} (hs : SpellsDecimal s d)
    (hnearest : x.IsNearest d.toRat) (hwhole : x.toRat? = some (n : Rat)) : Denotes s (.int n)
  | double {d : Decimal} {x : Double} (hs : SpellsDecimal s d) (hnearest : x.IsNearest d.toRat)
    (hnot : ∀ n : Int, x.toRat? ≠ some (n : Rat)) : Denotes s (.double x)

section Denotation

variable {s : List Char} {n : Number}

/-- What a decimal denotes is what the nearest double is made into. -/
theorem ofDouble_of_isNearest {d : Decimal} (hx : x.IsNearest d.toRat) :
    ofDouble x = ofDouble d.toDouble :=
  ofDouble_eq_of_place?_eq (by rintro rfl; exact nomatch hx) (hx.place?_eq d.toDouble_isNearest)

/-- The grammar says what numerals denote. -/
theorem denotes_iff : Denotes s n ↔ (s = [] ∧ n = .int 0) ∨ Spells s n := by
  constructor
  · intro h
    cases h with
    | nothing hs => exact .inl ⟨hs, rfl⟩
    | infinity hs =>
      obtain ⟨before, rfl, hsign⟩ := hs
      exact .inr (.infinity hsign)
    | radix hs =>
      obtain ⟨letter, base, cs, ds, rfl, hletter, hds, hrun, rfl⟩ := hs
      exact .inr (.radix hletter hds hrun)
    | whole hs hnearest hwhole =>
      rw [← ofDouble_eq_int_iff.mpr hwhole, ofDouble_of_isNearest hnearest]
      exact .inr (.decimal hs)
    | double hs hnearest hnot =>
      rw [← ofDouble_eq_double_iff.mpr ⟨rfl, hnot⟩, ofDouble_of_isNearest hnearest]
      exact .inr (.decimal hs)
  · rintro (⟨hs, rfl⟩ | h)
    · exact .nothing hs
    · cases h with
      | radix hletter hds hrun =>
        exact .radix ⟨_, _, _, _, rfl, hletter, hds, hrun, rfl⟩
      | infinity hsign => exact .infinity ⟨_, rfl, hsign⟩
      | @decimal s d hs =>
        cases hn : ofDouble d.toDouble with
        | int n => exact .whole hs d.toDouble_isNearest (ofDouble_eq_int_iff.mp hn)
        | double x =>
          obtain ⟨rfl, hnot⟩ := ofDouble_eq_double_iff.mp hn
          exact .double hs d.toDouble_isNearest hnot

theorem isNumeral_iff : IsNumeral s ↔ ∃ n, Denotes s n := by
  constructor
  · rintro (hs | ⟨negative, hs⟩ | ⟨n, hs⟩ | ⟨d, hs⟩)
    · exact ⟨_, .nothing hs⟩
    · exact ⟨_, .infinity hs⟩
    · exact ⟨_, .radix hs⟩
    · exact ⟨_, denotes_iff.mpr (.inr (.decimal hs))⟩
  · rintro ⟨n, h⟩
    cases h with
    | nothing hs => exact .inl hs
    | infinity hs => exact .inr (.inl ⟨_, hs⟩)
    | radix hs => exact .inr (.inr (.inl ⟨_, hs⟩))
    | whole hs _ _ => exact .inr (.inr (.inr ⟨_, hs⟩))
    | double hs _ _ => exact .inr (.inr (.inr ⟨_, hs⟩))

theorem number?_eq_some_iff_denotes {text : List Char} :
    number? text = some n ↔ Denotes (Text.trim text) n := by
  rw [number?_eq_some_iff, denotes_iff]

/-- **Literals are read as the grammar of numerals says.** A text is no number exactly if without
the blanks around it it is no numeral. Otherwise it is the one number that the numeral denotes: zero
if nothing is left, an infinity, the integer that is written in another base, or the double nearest
to a decimal, as an integer exactly if that double is whole. -/
theorem numeral_denotes (text : List Char) :
    (number? text = none ↔ ¬ IsNumeral (Text.trim text)) ∧
      ∀ n, number? text = some n ↔ Denotes (Text.trim text) n := by
  refine ⟨?_, fun n => number?_eq_some_iff_denotes⟩
  rw [isNumeral_iff, Option.eq_none_iff_forall_ne_some, not_exists]
  exact forall_congr' fun n => not_congr number?_eq_some_iff_denotes

/-- A decimal of 24 digits is read as the nearest double, which is whole. -/
example : number? "1e23".toList = some (.int 99999999999999991611392) := by
  with_unfolding_all rfl

end Denotation

end Numeral

end Rulebook
