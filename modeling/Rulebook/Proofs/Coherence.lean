import Rulebook.Condition
import Rulebook.Proofs.Comparing
import Rulebook.Proofs.Result
import Rulebook.Proofs.Spelling

/-!
# Equality and order go together

Equality is loose equality of two values, and the ordering operators compare the numbers that the
two values count as. Next to a literal that is a number or a truth value these come to one question,
which number the value counts as: `Condition.evaluate_of_comparing` says so of all six operators
at once. How they go together is then the order of numbers. The one value of which it is not true is
null, which counts as zero and equals only what is missing.
-/

set_option autoImplicit false

namespace Rulebook

/-! ## Numerals denote numbers with a place -/

theorem Double.ofParts_ne_nan (negative : Bool) (m : Nat) (e : Int) :
    ofParts negative m e ≠ .nan := by
  unfold ofParts
  split_ifs <;> simp

theorem Double.round_ne_nan (negative : Bool) (q : Rat) : round negative q ≠ .nan := by
  unfold round
  dsimp only
  split_ifs
  · exact nofun
  · exact ofParts_ne_nan _ _ _
  · exact ofParts_ne_nan _ _ _

theorem Decimal.toDouble_ne_nan (d : Decimal) : d.toDouble ≠ .nan := by
  unfold toDouble
  split_ifs
  · exact nofun
  · exact nofun
  · exact nofun
  · exact Double.round_ne_nan _ _

theorem Numeral.ofDouble_ne_nan {d : Double} (h : d ≠ .nan) : ofDouble d ≠ .double .nan := by
  unfold ofDouble
  cases d.toInt? with
  | none => exact fun e => h (Number.double.inj e)
  | some n => exact nofun

theorem Numeral.Spells.ne_nan {s : List Char} {n : Number} (h : Spells s n) : n ≠ .double .nan := by
  cases h with
  | radix hletter hds hrun => exact nofun
  | infinity hsign => exact nofun
  | decimal hdecimal => exact ofDouble_ne_nan (Decimal.toDouble_ne_nan _)

theorem Numeral.number?_ne_nan {text : List Char} {n : Number} (h : number? text = some n) :
    n ≠ .double .nan := by
  rcases number?_eq_some_iff.mp h with ⟨-, rfl⟩ | hspells
  · exact nofun
  · exact hspells.ne_nan

namespace Value

variable {actual expected : Value} {literal : String} {n : Number}

@[simp] theorem asNumber?_ofNumber (n : Number) : (ofNumber n).asNumber? = some n := by
  cases n <;> rfl

/-- A literal that is a number or a truth value counts as a number with a place. -/
theorem exists_place_ofLiteral (h : (ofLiteral literal).asNumber? = some n) :
    ∃ q, n.place? = some q := by
  rw [← Option.ne_none_iff_exists', Ne, Number.place?_eq_none_iff]
  unfold ofLiteral Literal.read at h
  cases hnumeral : Numeral.number? literal.toList with
  | some m =>
    obtain rfl : m = n := by simpa [hnumeral, Literal.value] using h
    exact Numeral.number?_ne_nan hnumeral
  | none =>
    rw [hnumeral] at h
    dsimp only at h
    split_ifs at h
    · obtain rfl := Option.some.inj h
      exact nofun
    · obtain rfl := Option.some.inj h
      exact nofun
    · exact nomatch h

/-- A literal that is a text counts as no number. -/
theorem toNumber_ofLiteral_text {s : String} (h : Literal.read literal = .text s) :
    (ofLiteral literal).toNumber = .ok (.double .nan) := by
  rw [ofLiteral, h]
  unfold Literal.read at h
  cases hnumeral : Numeral.number? literal.toList with
  | some m => simp [hnumeral] at h
  | none =>
    rw [hnumeral] at h
    dsimp only at h
    split_ifs at h
    obtain rfl := Literal.text.inj h
    simp [Literal.value, toNumber, Scalar.numberOfText, hnumeral]

/-! ## Equality as a comparison of numbers -/

theorem toNumber_of_asNumber? (h : expected.asNumber? = some n) : expected.toNumber = .ok n := by
  cases expected with
  | bool b => exact congrArg Except.ok (Option.some.inj h)
  | int m => exact congrArg Except.ok (Option.some.inj h)
  | double d => exact congrArg Except.ok (Option.some.inj h)
  | _ => exact nomatch h

theorem toScalar_of_asNumber? (h : expected.asNumber? = some n) :
    expected.toScalar = .ok (.number n) := by
  cases expected with
  | bool b => exact congrArg (Except.ok ∘ Scalar.number) (Option.some.inj h)
  | int m => exact congrArg (Except.ok ∘ Scalar.number) (Option.some.inj h)
  | double d => exact congrArg (Except.ok ∘ Scalar.number) (Option.some.inj h)
  | _ => exact nomatch h

theorem simple_of_asNumber? (h : expected.asNumber? = some n) :
    ¬ expected.isMissing = true ∧ ¬ expected.isCompound = true := by
  cases expected with
  | bool _ | int _ | double _ => exact ⟨Bool.false_ne_true, Bool.false_ne_true⟩
  | _ => exact nomatch h

/-- The text of an object is no numeral. -/
theorem numberOfText_object : Scalar.numberOfText "[object Object]" = .double .nan :=
  rfl

/-- What a value comes down to is compared with a number as the number that the value counts as. -/
theorem toScalar_looselyEq_number (h : ¬ actual.isMissing = true) (n : Number) :
    (actual.toScalar.map fun s => s.looselyEq (.number n)) = actual.toNumber.map (·.eq n) := by
  cases actual with
  | absent | null => exact (h rfl).elim
  | bool _ | int _ | double _ | text _ => rfl
  | list items =>
    rw [toScalar_of_isCompound rfl, toNumber]
    cases (list items).display <;> rfl
  | object ms =>
    show Except.ok ((Scalar.numberOfText "[object Object]").eq n) = _
    rw [numberOfText_object]
    rfl

/-- **Next to a number only the number counts.** Null is left out: it counts as zero, and is not
equal to it. -/
theorem looselyEq_of_asNumber? (h : expected.asNumber? = some n) (hnull : actual ≠ .null)
    (shared : Bool) : actual.looselyEq shared expected = actual.toNumber.map (·.eq n) := by
  obtain ⟨hmissing, hsimple⟩ := simple_of_asNumber? h
  by_cases hthere : actual.isMissing = true
  · -- What is not there counts as no number, which equals none.
    obtain rfl : actual = .absent := by
      cases actual with
      | absent => rfl
      | null => exact (hnull rfl).elim
      | _ => exact nomatch hthere
    rw [looselyEq, if_pos hthere, (Bool.not_eq_true _).mp hmissing]
    rfl
  · rw [looselyEq_eq_toScalar hthere hmissing (by simp [hsimple]), toScalar_of_asNumber? h,
      ← toScalar_looselyEq_number hthere n]
    cases actual.toScalar <;> rfl

end Value

/-! ## The operators that compare -/

namespace Operator

/-- The operators that put a value before or after a literal. -/
def ordering : List Operator :=
  [.greater, .less, .atLeast, .atMost]

/-- The operators that compare a value with a literal. -/
def comparing : List Operator :=
  .equal :: .different :: ordering

/-- What an operator that compares says of two numbers. The other two look at texts. -/
def answer (op : Operator) (m n : Number) : Bool :=
  match op with
  | .equal => m.eq n
  | .different => !m.eq n
  | .greater => n.lt m
  | .less => m.lt n
  | .atLeast => n.le m
  | .atMost => m.le n
  | .contains => false
  | .matches => false

end Operator

namespace Condition

variable {actual : Value} {literal : String} {m n : Number} {op : Operator}

theorem evaluate_tag (actual : Value) (op : Operator) (literal : String) :
    evaluate actual op.tag literal = holds op actual (.ofLiteral literal) := by
  rw [evaluate, Operator.ofTag?_tag]

/-- The ordering operators compare the numbers that value and literal count as, whatever these are.
-/
theorem evaluate_of_ordering (hop : op ∈ Operator.ordering)
    (hn : (Value.ofLiteral literal).toNumber = .ok n) (actual : Value) :
    evaluate actual op.tag literal = (number actual).map fun m => op.answer m n := by
  have hcompare : ∀ test : Number → Number → Bool,
      compareNumbers test actual (.ofLiteral literal) = (number actual).map fun m => test m n := by
    intro test
    unfold compareNumbers number
    rw [hn]
    cases actual.toNumber <;> rfl
  rw [evaluate_tag]
  cases op with
  | greater | less | atLeast | atMost => exact hcompare _
  | _ => exact absurd hop (by decide)

/-- **Next to a literal that counts as a number, what compares asks for the number of the value.**
-/
theorem evaluate_of_comparing (hop : op ∈ Operator.comparing)
    (hn : (Value.ofLiteral literal).asNumber? = some n) (hnull : actual ≠ .null) :
    evaluate actual op.tag literal = (number actual).map fun m => op.answer m n := by
  have hequal := Value.looselyEq_of_asNumber? hn hnull false
  cases op with
  | equal | different =>
    rw [evaluate_tag]
    unfold holds number
    rw [hequal]
    cases actual.toNumber <;> rfl
  | greater | less | atLeast | atMost =>
    exact evaluate_of_ordering (by decide) (Value.toNumber_of_asNumber? hn) actual
  | contains | «matches» => exact absurd hop (by decide)

/-- Nothing is above or below no number. -/
theorem answer_nan (hop : op ∈ Operator.ordering) (m : Number) :
    op.answer m (.double .nan) = false := by
  obtain ⟨hbelow, habove⟩ := Number.lt_of_place?_none (a := .double .nan) rfl m
  obtain ⟨hatMost, hatLeast⟩ := Number.le_of_place?_none (a := .double .nan) rfl m
  cases op with
  | greater => exact hbelow
  | less => exact habove
  | atLeast => exact hatMost
  | atMost => exact hatLeast
  | _ => exact absurd hop (by decide)

/-- How the outcomes of the operators that compare go together, on a value that counts as a given
number. -/
structure Coherent (m : Number) (outcome : Operator → Bool) : Prop where
  equal : outcome .equal = (outcome .atLeast && outcome .atMost)
  different : outcome .different = !outcome .equal
  one : m ≠ .double .nan → ([.less, .equal, .greater].map outcome).count true = 1
  noNumber : m = .double .nan → ∀ op ∈ Operator.comparing, outcome op = true ↔ op = .different

/-- Next to a number with a place the answers go together. -/
theorem coherent_answer {q : Place} (hn : n.place? = some q) (m : Number) :
    Coherent m fun op => op.answer m n := by
  constructor
  · exact Number.eq_eq_le_and_le m n
  · rfl
  · intro hm
    obtain ⟨p, hp⟩ := Option.ne_none_iff_exists'.mp (mt Number.place?_eq_none_iff.mp hm)
    exact Number.one_of_places hp hn
  · rintro hm op hop
    have hnone := Number.place?_eq_none_iff.mpr hm
    cases op with
    | contains | «matches» => exact absurd hop (by decide)
    | _ =>
      simp [Operator.answer, Number.eq_of_place?_none hnone n, Number.lt_of_place?_none hnone n,
        Number.le_of_place?_none hnone n]

/-- **Equality and order are coherent.** On a value other than null and next to a literal that is
a number or a truth value, the operators that compare have outcomes together, or the value counts as
no number for lack of a text and none of them has one. The outcomes agree: equal is at least and at
most, different is not equal, and one of less, equal and greater holds, or only different holds, on a
value that is no number. What is above one literal is above every lower one, and what is below one
is below every higher one. Next to a literal that is a text nothing is above or below. -/
theorem operators_coherent (actual : Value) (literal : String) :
    (actual ≠ .null → ∀ n, (Value.ofLiteral literal).asNumber? = some n →
      (∃ e, actual.toNumber = .error e ∧
        ∀ op ∈ Operator.comparing, evaluate actual op.tag literal = .error (.display e)) ∨
      ∃ m outcome, actual.toNumber = .ok m ∧
        (∀ op ∈ Operator.comparing, evaluate actual op.tag literal = .ok (outcome op)) ∧
        Coherent m outcome) ∧
    (∀ higher n n', (Value.ofLiteral literal).asNumber? = some n →
      (Value.ofLiteral higher).asNumber? = some n' → n.lt n' = true →
      (evaluate actual ">" higher = .ok true → evaluate actual ">" literal = .ok true) ∧
      (evaluate actual "<" literal = .ok true → evaluate actual "<" higher = .ok true)) ∧
    ∀ s, Literal.read literal = .text s → ∀ op ∈ Operator.ordering,
      evaluate actual op.tag literal = (number actual).map fun _ => false := by
  refine ⟨?_, ?_, ?_⟩
  · intro hnull n hn
    obtain ⟨q, hq⟩ := Value.exists_place_ofLiteral hn
    cases hm : actual.toNumber with
    | error e =>
      refine .inl ⟨e, rfl, fun op hop => ?_⟩
      rw [evaluate_of_comparing hop hn hnull, number, hm]
      rfl
    | ok m =>
      refine .inr ⟨m, fun op => op.answer m n, rfl, fun op hop => ?_, coherent_answer hq m⟩
      rw [evaluate_of_comparing hop hn hnull, number, hm]
      rfl
  · intro higher n n' hn hn' hlt
    have hlow := Value.toNumber_of_asNumber? hn
    have hhigh := Value.toNumber_of_asNumber? hn'
    constructor
    · intro h
      have h : evaluate actual Operator.greater.tag higher = .ok true := h
      show evaluate actual Operator.greater.tag literal = .ok true
      rw [evaluate_of_ordering (by decide) hhigh] at h
      rw [evaluate_of_ordering (by decide) hlow]
      obtain ⟨m, hm, habove⟩ := map_eq_ok.mp h
      exact map_eq_ok.mpr ⟨m, hm, Number.lt_of_lt_of_lt hlt habove⟩
    · intro h
      have h : evaluate actual Operator.less.tag literal = .ok true := h
      show evaluate actual Operator.less.tag higher = .ok true
      rw [evaluate_of_ordering (by decide) hlow] at h
      rw [evaluate_of_ordering (by decide) hhigh]
      obtain ⟨m, hm, hbelow⟩ := map_eq_ok.mp h
      exact map_eq_ok.mpr ⟨m, hm, Number.lt_of_lt_of_lt hbelow hlt⟩
  · intro s hs op hop
    rw [evaluate_of_ordering hop (Value.toNumber_ofLiteral_text hs)]
    exact congrArg (fun f => (number actual).map f) (funext fun m => answer_nan hop m)

/-- Integers are compared as they are, past what doubles tell apart; truth values count as zero and
one; and no order holds next to a word. -/
theorem operators_coherent_counting :
    (Value.int 9007199254740993 ≠ .null ∧
      (Value.ofLiteral "9007199254740992").asNumber? = some (.int 9007199254740992) ∧
      ∃ outcome, (∀ op ∈ Operator.comparing,
        evaluate (.int 9007199254740993) op.tag "9007199254740992" = .ok (outcome op)) ∧
        Coherent (.int 9007199254740993) outcome) ∧
    ((Value.ofLiteral "0x10").asNumber? = some (.int 16) ∧
      evaluate (.int 9007199254740993) ">" "9007199254740992" = .ok true ∧
      evaluate (.int 9007199254740993) ">" "0x10" = .ok true ∧
      evaluate (.bool true) "<" "0x10" = .ok true ∧
      evaluate (.bool true) "<" "9007199254740992" = .ok true) ∧
    Literal.read "gold" = .text "gold" ∧ Operator.atLeast ∈ Operator.ordering ∧
      evaluate (.int 5) Operator.atLeast.tag "gold" = .ok false := by
  have hnull : Value.int 9007199254740993 ≠ .null := nofun
  have hhigh : (Value.ofLiteral "9007199254740992").asNumber? = some (.int 9007199254740992) := by
    with_unfolding_all rfl
  have hlow : (Value.ofLiteral "0x10").asNumber? = some (.int 16) := rfl
  have hlt : (Number.int 16).lt (.int 9007199254740992) = true := by decide
  have habove : evaluate (.int 9007199254740993) ">" "9007199254740992" = .ok true := by
    with_unfolding_all rfl
  have hbelow : evaluate (.bool true) "<" "0x10" = .ok true := rfl
  have hgold : Literal.read "gold" = .text "gold" := rfl
  have hatLeast : Operator.atLeast ∈ Operator.ordering := by decide
  refine ⟨⟨hnull, hhigh, ?_⟩, ⟨hlow, habove, ?_, hbelow, ?_⟩, hgold, hatLeast, ?_⟩
  · rcases (operators_coherent _ _).1 hnull _ hhigh with ⟨e, he, -⟩ | ⟨m, outcome, hm, h⟩
    · exact nomatch he
    · obtain rfl := Except.ok.inj hm
      exact ⟨outcome, h⟩
  · exact ((operators_coherent _ _).2.1 _ _ _ hlow hhigh hlt).1 habove
  · exact ((operators_coherent _ _).2.1 _ _ _ hlow hhigh hlt).2 hbelow
  · exact (operators_coherent (.int 5) "gold").2.2 _ hgold _ hatLeast

end Condition

end Rulebook
