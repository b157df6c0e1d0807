import Rulebook.Proofs.Coherence
import Rulebook.Proofs.Readback

/-!
# Integers next to the texts of integers

An integer in the input has any size, and numbers are compared by exact value. The text of an
integer, though, is read as the nearest double, so what an integer is compared with is the nearest
double too. `Condition.evaluate_integers` says what comes of it. Next to the text of an integer that
a double stands for, all integers are compared as integers are. Next to any other text an integer is
compared right exactly if it lies on the same side of the double as of the integer that is written,
which the integer itself never does.
-/

set_option autoImplicit false

namespace Rulebook

namespace Number

variable {a b : Number} {p q : Place}

/-- Of two numbers with places one is at most the other unless it is above it. -/
theorem le_eq_not_lt (ha : a.place? = some p) (hb : b.place? = some q) : a.le b = !b.lt a := by
  have hle : p ≤ q ↔ ¬ q < p := not_lt.symm
  rw [le_of_places ha hb, lt_of_places hb ha, Bool.eq_iff_iff, Bool.not_eq_true']
  exact hle.trans Bool.eq_false_iff.symm

theorem lt_asymm (h : a.lt b = true) : b.lt a = false := by
  obtain ⟨p, q, ha, hb, hpq⟩ := compareBy_eq_true_iff.mp h
  have hlt : p < q := hpq
  rw [lt_of_places hb ha]
  exact Bool.eq_false_iff.mpr hlt.asymm

end Number

namespace Operator

/-- What an operator that compares says of two integers. -/
def ofIntegers (op : Operator) (m n : Int) : Bool :=
  match op with
  | .equal => m == n
  | .different => m != n
  | .greater => n < m
  | .less => m < n
  | .atLeast => n ≤ m
  | .atMost => m ≤ n
  | .contains => false
  | .matches => false

variable {a b : Number}

/-- Integers are compared as integers. -/
theorem answer_int (op : Operator) (m n : Int) :
    op.answer (.int m) (.int n) = op.ofIntegers m n := by
  have heq : (Number.int m).eq (.int n) = (m == n) := by
    rw [Number.eq_of_places rfl rfl]
    simp
  have hle : ∀ k l : Int, (Number.int k).le (.int l) = decide (k ≤ l) := fun k l => by
    rw [Number.le_of_places rfl rfl]
    simp [Place.le]
  have hlt : ∀ k l : Int, (Number.int k).lt (.int l) = decide (k < l) := fun k l => by
    rw [← Bool.not_not ((Number.int k).lt (.int l)), ← Number.le_eq_not_lt rfl rfl, hle,
      ← decide_not, decide_eq_decide]
    exact not_le
  cases op with
  | equal => exact heq
  | different => exact congrArg (!·) heq
  | greater => exact hlt n m
  | less => exact hlt m n
  | atLeast => exact hle n m
  | atMost => exact hle m n
  | contains | «matches» => rfl

/-- Of two numbers only the places count. -/
theorem answer_congr {b' : Number} (op : Operator) (h : b.place? = b'.place?) :
    op.answer a b = op.answer a b' := by
  cases op <;> simp only [answer, Number.eq, Number.lt, Number.le, Number.compareBy, h]

/-- Of two numbers with places only the order of the places counts. -/
theorem answer_congr_order {a' b' : Number} {p q p' q' : Place} (op : Operator)
    (ha : a.place? = some p) (hb : b.place? = some q) (ha' : a'.place? = some p')
    (hb' : b'.place? = some q') (hlt : a.lt b = a'.lt b') (hgt : b.lt a = b'.lt a') :
    op.answer a b = op.answer a' b' := by
  have hle : a.le b = a'.le b' := by
    rw [Number.le_eq_not_lt ha hb, Number.le_eq_not_lt ha' hb', hgt]
  have hge : b.le a = b'.le a' := by
    rw [Number.le_eq_not_lt hb ha, Number.le_eq_not_lt hb' ha', hlt]
  cases op <;> simp only [answer, Number.eq_eq_le_and_le, hle, hge, hlt, hgt]

end Operator

namespace Condition

/-- An integer next to the text of an integer is compared with the nearest double. -/
theorem evaluate_int_toString {op : Operator} (hop : op ∈ Operator.comparing) (m n : Int) :
    evaluate (.int m) op.tag (toString n) = .ok (op.answer (.int m) (.double (.ofInt n))) := by
  have hread : (Value.ofLiteral (toString n)).asNumber? = some (Numeral.ofDouble (.ofInt n)) := by
    rw [Value.ofLiteral, Literal.read_toString]
    exact Value.asNumber?_ofNumber _
  have hnull : Value.int m ≠ .null := by simp
  rw [evaluate_of_comparing hop hread hnull]
  exact congrArg Except.ok (op.answer_congr (Numeral.place?_ofDouble _))

/-- The answers are all right if the double is the integer that is written, or on the same side. -/
theorem answers_right_iff (m n : Int) (x : Double) :
    (∀ op ∈ Operator.comparing, op.answer (.int m) (.double x) = op.ofIntegers m n) ↔
      x.toRat? = some (n : Rat) ∨ (m < n ∧ (Number.int m).lt (.double x) = true) ∨
        (n < m ∧ (Number.double x).lt (.int m) = true) := by
  constructor
  · intro h
    rcases lt_trichotomy m n with hless | rfl | hgreater
    · have hlt := h .less (by decide)
      exact .inr (.inl ⟨hless, hlt.trans (decide_eq_true hless)⟩)
    · have heq : (Number.int m).eq (.double x) = true :=
        (h .equal (by decide)).trans (beq_self_eq_true m)
      obtain ⟨p, q, hp, hq, hpq⟩ := Number.compareBy_eq_true_iff.mp heq
      obtain rfl := Option.some.inj hp
      obtain rfl := eq_of_beq hpq
      exact .inl (Double.place?_eq_rational_iff.mp hq)
    · have hgt := h .greater (by decide)
      exact .inr (.inr ⟨hgreater, hgt.trans (decide_eq_true hgreater)⟩)
  · intro h op _
    rw [← Operator.answer_int]
    rcases h with hvalue | ⟨hless, hlt⟩ | ⟨hgreater, hgt⟩
    · exact op.answer_congr (Double.place?_eq_rational_iff.mpr hvalue)
    · have hint : (Number.int m).lt (.int n) = true :=
        (Operator.answer_int .less m n).trans (decide_eq_true hless)
      obtain ⟨p, q, hp, hq, -⟩ := Number.compareBy_eq_true_iff.mp hlt
      exact op.answer_congr_order hp hq rfl rfl (hlt.trans hint.symm)
        ((Number.lt_asymm hlt).trans (Number.lt_asymm hint).symm)
    · have hint : (Number.int n).lt (.int m) = true :=
        (Operator.answer_int .greater m n).trans (decide_eq_true hgreater)
      obtain ⟨p, q, hp, hq, -⟩ := Number.compareBy_eq_true_iff.mp hgt
      exact op.answer_congr_order hq hp rfl rfl
        ((Number.lt_asymm hgt).trans (Number.lt_asymm hint).symm) (hgt.trans hint.symm)

/-- **Integers are compared as integers next to the text of an integer that a double stands for,**
and up to 2⁵³ all are such. What is compared is the nearest double in any case, and next to other
texts the operators are all right about an integer exactly if it lies on the same side of both. -/
theorem evaluate_integers (n : Int) :
    ∃ x : Double, x.IsNearest n ∧
      (∀ m : Int, ∀ op ∈ Operator.comparing,
        evaluate (.int m) op.tag (toString n) = .ok (op.answer (.int m) (.double x))) ∧
      (∀ m : Int,
        (∀ op ∈ Operator.comparing,
          evaluate (.int m) op.tag (toString n) = .ok (op.ofIntegers m n)) ↔
        Double.Representable n ∨ (m < n ∧ (Number.int m).lt (.double x) = true) ∨
          (n < m ∧ (Number.double x).lt (.int m) = true)) ∧
      ((∀ m : Int, ∀ op ∈ Operator.comparing,
          evaluate (.int m) op.tag (toString n) = .ok (op.ofIntegers m n)) ↔
        Double.Representable n) ∧
      (n.natAbs ≤ 2 ^ 53 → Double.Representable n) := by
  have hpointwise : ∀ m : Int,
      (∀ op ∈ Operator.comparing,
        evaluate (.int m) op.tag (toString n) = .ok (op.ofIntegers m n)) ↔
      Double.Representable n ∨ (m < n ∧ (Number.int m).lt (.double (.ofInt n)) = true) ∨
        (n < m ∧ (Number.double (.ofInt n)).lt (.int m) = true) := by
    intro m
    rw [← Double.toRat?_ofInt_iff, ← answers_right_iff]
    refine forall₂_congr fun op hop => ?_
    rw [evaluate_int_toString hop, Except.ok.injEq]
  refine ⟨.ofInt n, Double.ofInt_isNearest n, fun m op hop => evaluate_int_toString hop m n,
    hpointwise, ?_, Double.representable_of_natAbs_le⟩
  constructor
  · intro h
    rcases (hpointwise n).mp (h n) with hrep | ⟨hlt, -⟩ | ⟨hlt, -⟩
    · exact hrep
    · exact absurd hlt (lt_irrefl n)
    · exact absurd hlt (lt_irrefl n)
  · exact fun hrep m => (hpointwise m).mpr (.inl hrep)

/-- Next to 2⁵³ the integer after it is told apart. -/
theorem evaluate_integers_limit :
    (9007199254740992 : Int).natAbs ≤ 2 ^ 53 ∧ Operator.greater ∈ Operator.comparing ∧
      evaluate (.int 9007199254740993) Operator.greater.tag (toString (9007199254740992 : Int)) =
        .ok true := by
  have hle : (9007199254740992 : Int).natAbs ≤ 2 ^ 53 := by decide
  have hop : Operator.greater ∈ Operator.comparing := by decide
  obtain ⟨-, -, -, -, hright, hrep⟩ := evaluate_integers 9007199254740992
  exact ⟨hle, hop, hright.mpr (hrep hle) 9007199254740993 .greater hop⟩

/-- **The integer after 2⁵³ does not equal its own text,** which is read as 2⁵³. -/
theorem integer_differs_from_own_text :
    ¬ ∀ m n : Int, ∀ op ∈ Operator.comparing,
      evaluate (.int m) op.tag (toString n) = .ok (op.ofIntegers m n) := by
  intro h
  have hequal := h 9007199254740993 9007199254740993 .equal (by decide)
  have hdiffers : evaluate (.int 9007199254740993) Operator.equal.tag
      (toString (9007199254740993 : Int)) = .ok false := by with_unfolding_all rfl
  rw [hdiffers] at hequal
  exact absurd hequal (by decide)

end Condition

end Rulebook
