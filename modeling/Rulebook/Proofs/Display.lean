import Rulebook.Comparison
import Rulebook.Literal
import Rulebook.Proofs.Result

/-!
# Which values have a text

The text of a value writes out the integers in it, those of nested lists included, but none that are
inside an object. A value has a text exactly when each integer that is written out has at most 4300
digits (`Value.exists_display_eq_ok`). Comparing needs less: a value with a text also counts as a
number and as a scalar, and so does every literal, of any length.
-/

set_option autoImplicit false

namespace Rulebook

theorem displayInt_eq_ok_iff {n : Int} {s : String} :
    displayInt n = .ok s ↔ n.natAbs < digitBound ∧ toString n = s := by
  unfold displayInt
  by_cases h : digitBound ≤ n.natAbs
  · simp [h, Nat.not_lt.mpr h]
  · simp [h, Nat.lt_of_not_le h]

theorem exists_displayInt_eq_ok {n : Int} :
    (∃ s, displayInt n = .ok s) ↔ n.natAbs < digitBound := by
  unfold displayInt
  by_cases h : digitBound ≤ n.natAbs
  · simp [h]
  · simp [h, Nat.lt_of_not_le h]

namespace Value

mutual

/-- The integers that the text of a value writes out. -/
def shownIntegers : Value → List Int
  | .int n => [n]
  | .list items => shownByItems items
  | _ => []
termination_by structural x => x

/-- The integers that the texts of some items write out. -/
def shownByItems : List Value → List Int
  | [] => []
  | v :: rest => shownIntegers v ++ shownByItems rest
termination_by structural x => x

end

/-- No integer that the text of a value writes out is too long. -/
def Displayable (v : Value) : Prop :=
  ∀ n ∈ v.shownIntegers, n.natAbs < digitBound

/-- A missing item leaves an empty part, any other its text. -/
theorem displayItems_cons (v : Value) (rest : List Value) :
    displayItems (v :: rest) =
      ((if v.isMissing then .ok "" else v.display) >>= fun part =>
        displayItems rest >>= fun parts => .ok (part :: parts)) := by
  cases v with
  | absent | null => rfl
  | _ => simp [displayItems, isMissing, pure, Except.pure]

theorem shownIntegers_of_isMissing {v : Value} (h : v.isMissing = true) : v.shownIntegers = [] := by
  cases v with
  | absent | null => rfl
  | _ => simp [isMissing] at h

mutual

/-- **A value has a text exactly when no integer in it is too long.** -/
theorem exists_display_eq_ok : ∀ v : Value, (∃ s, v.display = .ok s) ↔ v.Displayable
  | .absent | .null | .bool _ | .double _ | .text _ | .object _ => by
    simp [display, Displayable, shownIntegers]
  | .int n => by simpa [display, Displayable, shownIntegers] using exists_displayInt_eq_ok
  | .list items => by
    have hitems := exists_displayItems_eq_ok items
    rw [display, exists_bind_eq_ok, Displayable, shownIntegers, ← hitems]
    exact ⟨fun ⟨parts, h, _⟩ => ⟨parts, h⟩, fun ⟨parts, h⟩ => ⟨parts, h, _, rfl⟩⟩

theorem exists_displayItems_eq_ok : ∀ items : List Value,
    (∃ parts, displayItems items = .ok parts) ↔ ∀ n ∈ shownByItems items, n.natAbs < digitBound
  | [] => by simp [displayItems, shownByItems]
  | v :: rest => by
    have hrest := exists_displayItems_eq_ok rest
    -- A missing item has an empty part and shows no integers.
    have hv : (∃ part, (if v.isMissing then .ok "" else v.display) = Except.ok part) ↔
        v.Displayable := by
      cases hmissing : v.isMissing with
      | true => simp [Displayable, shownIntegers_of_isMissing hmissing]
      | false => simpa using exists_display_eq_ok v
    rw [displayItems_cons, exists_bind_eq_ok, shownByItems, List.forall_mem_append, ← hrest]
    constructor
    · rintro ⟨part, hpart, h⟩
      obtain ⟨parts, hparts, -⟩ := exists_bind_eq_ok.mp h
      exact ⟨hv.mp ⟨part, hpart⟩, parts, hparts⟩
    · rintro ⟨h, parts, hparts⟩
      obtain ⟨part, hpart⟩ := hv.mpr h
      exact ⟨part, hpart, exists_bind_eq_ok.mpr ⟨parts, hparts, _, rfl⟩⟩

end

/-! ## Values that can be written out -/

theorem allWritable_iff {items : List Value} :
    allWritable items = true ↔ ∀ v ∈ items, v.isWritable = true := by
  induction items with
  | nil => simp [allWritable]
  | cons v rest ih => simp [allWritable, ih]

theorem allMembersWritable_iff {ms : Members} :
    allMembersWritable ms = true ↔ ∀ m ∈ ms, m.2.isWritable = true := by
  induction ms with
  | nil => simp [allMembersWritable]
  | cons m rest ih => simp [allMembersWritable, ih]

/-- The least integer that is too long has no text. -/
theorem not_displayable_digitBound : ¬ (Value.int digitBound).Displayable := by
  intro h
  have hlt := h digitBound (List.mem_singleton_self _)
  rw [Int.natAbs_natCast] at hlt
  exact Nat.lt_irrefl _ hlt

mutual

/-- What can be written out as a whole has a text, which shows less. -/
theorem displayable_of_isWritable : ∀ v : Value, v.isWritable = true → v.Displayable
  | .absent | .null | .bool _ | .double _ | .text _ | .object _ => by
    simp [Displayable, shownIntegers]
  | .int n => by simp [Displayable, shownIntegers, isWritable]
  | .list items => by
    rw [isWritable, Displayable, shownIntegers]
    exact displayable_of_allWritable items

theorem displayable_of_allWritable : ∀ items : List Value, allWritable items = true →
    ∀ n ∈ shownByItems items, n.natAbs < digitBound
  | [] => by simp [shownByItems]
  | v :: rest => by
    intro h
    rw [allWritable, Bool.and_eq_true] at h
    rw [shownByItems, List.forall_mem_append]
    exact ⟨displayable_of_isWritable v h.1, displayable_of_allWritable rest h.2⟩

end

/-! ## What comparing needs -/

theorem exists_toScalar_eq_ok {v : Value} (h : v.Displayable) : ∃ s, v.toScalar = .ok s := by
  obtain ⟨s, hs⟩ := (exists_display_eq_ok _).mpr h
  cases v with
  | bool _ | int _ | double _ | text _ => exact ⟨_, rfl⟩
  | _ => exact ⟨_, bind_eq_ok.mpr ⟨s, hs, rfl⟩⟩

theorem exists_toNumber_eq_ok {v : Value} (h : v.Displayable) : ∃ n, v.toNumber = .ok n := by
  cases v with
  | list items =>
    obtain ⟨s, hs⟩ := (exists_display_eq_ok _).mpr h
    exact ⟨_, bind_eq_ok.mpr ⟨s, hs, rfl⟩⟩
  | _ => exact ⟨_, rfl⟩

/-- A literal counts as a scalar whatever it is: it is never a list or an object. -/
theorem exists_toScalar_ofLiteral (literal : String) :
    ∃ s, (ofLiteral literal).toScalar = .ok s := by
  unfold ofLiteral
  cases Literal.read literal with
  | number n => cases n <;> exact ⟨_, rfl⟩
  | truth b => exact ⟨_, rfl⟩
  | text s => exact ⟨_, rfl⟩

theorem exists_toNumber_ofLiteral (literal : String) :
    ∃ n, (ofLiteral literal).toNumber = .ok n := by
  unfold ofLiteral
  cases Literal.read literal with
  | number n => cases n <;> exact ⟨_, rfl⟩
  | truth b => exact ⟨_, rfl⟩
  | text s => exact ⟨_, rfl⟩

end Value

end Rulebook
