import Rulebook.Comparison
import Rulebook.Proofs.Ordering

/-!
# Loose equality does not see the order of its operands

A comparison that converts its operands one at a time looks at the left one first, so with the
operands swapped it takes other steps: of a truth value and a list it converts the truth value first
either way, of two truth values the left one. What the conversions come to does not depend on that.
`Value.looselyEqStepwise_eq` says that they always end with both operands as scalars, and on these
the comparison is symmetric because the comparison of numbers is.
-/

set_option autoImplicit false

namespace Rulebook

theorem Scalar.looselyEq_comm (s t : Scalar) : s.looselyEq t = t.looselyEq s := by
  cases s with
  | number m =>
    cases t with
    | number n => exact Number.eq_comm m n
    | text t => exact Number.eq_comm m (numberOfText t)
  | text s =>
    cases t with
    | number n => exact Number.eq_comm (numberOfText s) n
    | text t => exact Bool.beq_comm

namespace Value

variable {left right : Value} {shared : Bool}

/-- Values that are not missing, and not both lists or objects, are compared as scalars. -/
theorem looselyEq_eq_toScalar (hleft : ¬ left.isMissing = true) (hright : ¬ right.isMissing = true)
    (hcompound : ¬ (left.isCompound && right.isCompound) = true) :
    left.looselyEq shared right = (do
      let l ← left.toScalar
      let r ← right.toScalar
      return l.looselyEq r) := by
  rw [looselyEq, if_neg hleft, if_neg hright, if_neg hcompound]

/-- A list or object comes down to its text. -/
theorem toScalar_of_isCompound (h : left.isCompound = true) :
    left.toScalar = (do let s ← left.display; return .text s) := by
  cases left with
  | list items => rfl
  | object ms => rfl
  | _ => exact nomatch h

theorem exists_toScalar_of_not_compound (hmissing : ¬ left.isMissing = true)
    (hcompound : ¬ left.isCompound = true) : ∃ s, left.toScalar = .ok s := by
  cases left with
  | absent | null => exact (hmissing rfl).elim
  | list items => exact (hcompound rfl).elim
  | object ms => exact (hcompound rfl).elim
  | _ => exact ⟨_, rfl⟩

/-- What takes no conversion is a number or a text. -/
theorem number_or_text (hmissing : ¬ left.isMissing = true) (hcompound : ¬ left.isCompound = true)
    (htruth : ∀ b, left = .bool b → False) :
    (∃ n, left = .ofNumber n) ∨ ∃ s, left = .text s := by
  cases left with
  | absent | null => exact (hmissing rfl).elim
  | list items => exact (hcompound rfl).elim
  | object ms => exact (hcompound rfl).elim
  | bool b => exact (htruth b rfl).elim
  | int n => exact .inl ⟨.int n, rfl⟩
  | double d => exact .inl ⟨.double d, rfl⟩
  | text s => exact .inr ⟨s, rfl⟩

@[simp] theorem toScalar_ofNumber (n : Number) : (ofNumber n).toScalar = .ok (.number n) := by
  cases n <;> rfl

@[simp] theorem toNumber_ofNumber (n : Number) : (ofNumber n).toNumber = .ok n := by
  cases n <;> rfl

/-- **Conversions one at a time come to the same as all at once.** -/
theorem looselyEqStepwise_eq (shared : Bool) (left right : Value) :
    left.looselyEqStepwise shared right = left.looselyEq shared right := by
  fun_induction looselyEqStepwise shared left right with
  | case1 left right hleft => rw [looselyEq, if_pos hleft]
  | case2 left right hleft hright => rw [looselyEq, if_neg hleft, if_pos hright]
  | case3 b right hleft hright ih => exact ih.trans rfl
  | case4 left b _ hleft hright ih =>
    refine ih.trans ?_
    cases left <;> rfl
  | case5 s t => rfl
  | case6 left right _ _ _ hboth hleft hright =>
    rw [looselyEq, if_neg hleft, if_neg hright, if_pos hboth]
  | case7 left right _ _ _ hboth hcompound hleft hright ih =>
    have hthen : ∀ s, (text s).looselyEq shared right =
        (do let r ← right.toScalar; return (Scalar.text s).looselyEq r) :=
      fun s => looselyEq_eq_toScalar (by simp [isMissing]) hright (by simp [isCompound])
    simp only [ih, hthen]
    rw [looselyEq_eq_toScalar hleft hright hboth, toScalar_of_isCompound hcompound]
    cases left.display <;> rfl
  | case8 left right _ _ _ hboth hsimple hcompound hleft hright ih =>
    -- The left operand is a scalar by now, so nothing fails before the right one is converted.
    obtain ⟨l, hl⟩ := exists_toScalar_of_not_compound hleft hsimple
    have hthen : ∀ t, left.looselyEq shared (text t) = .ok (l.looselyEq (.text t)) := by
      intro t
      rw [looselyEq_eq_toScalar hleft (by simp [isMissing]) (by simp [isCompound]), hl]
      rfl
    simp only [ih, hthen]
    rw [looselyEq_eq_toScalar hleft hright hboth, toScalar_of_isCompound hcompound, hl]
    cases right.display <;> rfl
  | case9 left right hleftTruth hrightTruth htexts hboth hleftSimple hrightSimple hleft hright =>
    rw [looselyEq_eq_toScalar hleft hright hboth]
    rcases number_or_text hleft hleftSimple hleftTruth with ⟨m, rfl⟩ | ⟨s, rfl⟩
    · rcases number_or_text hright hrightSimple hrightTruth with ⟨n, rfl⟩ | ⟨t, rfl⟩
      · simp only [toScalar_ofNumber, toNumber_ofNumber]
        rfl
      · simp only [toScalar_ofNumber, toNumber_ofNumber]
        rfl
    · rcases number_or_text hright hrightSimple hrightTruth with ⟨n, rfl⟩ | ⟨t, rfl⟩
      · simp only [toScalar_ofNumber, toNumber_ofNumber]
        rfl
      · exact (htexts s t rfl rfl).elim

/-- At once, the comparison does not see the order of its operands. -/
theorem looselyEq_swap (shared : Bool) (left right : Value) :
    left.looselyEq shared right = right.looselyEq shared left := by
  unfold looselyEq
  by_cases hleft : left.isMissing = true
  · by_cases hright : right.isMissing = true
    · simp [hleft, hright]
    · simp [hleft, hright]
  · by_cases hright : right.isMissing = true
    · simp [hleft, hright]
    · rw [if_neg hleft, if_neg hright, if_neg hright, if_neg hleft, Bool.and_comm]
      split_ifs with hboth
      · rfl
      · cases left.toScalar with
        | error e =>
          cases right.toScalar with
          | error e' =>
            -- There is only one way to fail.
            cases e
            cases e'
            rfl
          | ok r => rfl
        | ok l =>
          cases right.toScalar with
          | error e' => rfl
          | ok r => exact congrArg Except.ok (Scalar.looselyEq_comm l r)

/-- **Loose equality is symmetric.** Any two values, one and the same tree or not, are compared with
the same outcome in either order: the same answer, or in both orders none, because a list has no
text. It is the outcome of a comparison that converts both at once. -/
theorem looselyEqStepwise_comm (shared : Bool) (left right : Value) :
    left.looselyEqStepwise shared right = right.looselyEqStepwise shared left ∧
      left.looselyEqStepwise shared right = left.looselyEq shared right := by
  refine ⟨?_, looselyEqStepwise_eq shared left right⟩
  calc
    left.looselyEqStepwise shared right = left.looselyEq shared right :=
      looselyEqStepwise_eq shared left right
    _ = right.looselyEq shared left := looselyEq_swap shared left right
    _ = right.looselyEqStepwise shared left := (looselyEqStepwise_eq shared right left).symm

end Value

end Rulebook
