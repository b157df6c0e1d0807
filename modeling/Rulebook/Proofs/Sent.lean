import Mathlib.Data.List.Forall2
import Rulebook.Path
import Rulebook.Proofs.Tree
import Rulebook.Service.Reply

/-!
# What is sent of a tree

Sending puts null in the place of every number that JSON does not have, and leaves all else where it
is: at every place of a tree stands what is sent for the value there (`Value.shapeAt?_sendable`). So
a tree arrives as it was exactly when JSON has its numbers (`Value.sendable_alike_iff`).
-/

set_option autoImplicit false

namespace Rulebook

/-- What is sent for a value. -/
def Shape.sent : Shape → Shape
  | .double d => if d.isExceptional then .null else .double d
  | s => s

namespace Value

variable {v w : Value} {vs ws : List Value} {ms ns : Members}

/-! ## Place by place -/

theorem get?_sendableMembers (ms : Members) (key : String) :
    Members.get? (sendableMembers ms) key = (Members.get? ms key).map sendable := by
  induction ms with
  | nil => rfl
  | cons m rest ih =>
    obtain ⟨k, v⟩ := m
    unfold Members.get? at ih ⊢
    rw [sendableMembers]
    by_cases hk : k = key
    · simp [hk]
    · simpa [hk] using ih

theorem child_sendable (v : Value) (key : String) :
    v.sendable.child key = (v.child key).sendable := by
  cases v with
  | object ms =>
    show (Members.get? (sendableMembers ms) key).getD .absent =
      ((Members.get? ms key).getD .absent).sendable
    rw [get?_sendableMembers]
    cases Members.get? ms key <;> rfl
  | double d =>
    rw [sendable]
    split_ifs <;> rfl
  | _ => rfl

theorem sendableItems_eq_map (items : List Value) : sendableItems items = items.map sendable := by
  induction items with
  | nil => rfl
  | cons v rest ih => rw [sendableItems, ih, List.map_cons]

theorem shape_sendable (v : Value) : v.sendable.shape = v.shape.sent := by
  cases v with
  | double d =>
    rw [sendable, shape, Shape.sent]
    split_ifs <;> rfl
  | list items =>
    show Shape.list (sendableItems items).length = Shape.list items.length
    rw [sendableItems_eq_map, List.length_map]
  | _ => rfl

theorem below?_sendable (v : Value) (step : Step) :
    v.sendable.below? step = (v.below? step).map sendable := by
  cases v with
  | list items =>
    cases step with
    | key name => rfl
    | index n =>
      show (sendableItems items)[n]? = (items[n]?).map sendable
      rw [sendableItems_eq_map, List.getElem?_map]
  | object ms =>
    cases step with
    | key name => exact get?_sendableMembers ms name
    | index n => rfl
  | double d =>
    rw [sendable]
    split_ifs <;> rfl
  | _ => rfl

/-- **At every place stands what is sent for the value there.** -/
theorem shapeAt?_sendable (v : Value) (place : List Step) :
    v.sendable.shapeAt? place = (v.shapeAt? place).map Shape.sent := by
  induction place generalizing v with
  | nil => exact congrArg some (shape_sendable v)
  | cons step rest ih =>
    rw [shapeAt?, shapeAt?, below?_sendable]
    cases v.below? step with
    | none => rfl
    | some w => exact ih w

/-! ## Trees that arrive as they were -/

/-- JSON has every number that can be read from a tree. -/
def IsJson (v : Value) : Prop :=
  ∀ place d, v.shapeAt? place = some (.double d) → d.isExceptional = false

theorem sendable_alike_iff : v.sendable.Alike v ↔ v.IsJson := by
  constructor
  · intro h place d hd
    have hsame := h place
    rw [shapeAt?_sendable, hd, Option.map_some, Shape.sent] at hsame
    split_ifs at hsame with hexceptional
    · exact nomatch hsame
    · exact Bool.eq_false_iff.mpr hexceptional
  · intro h place
    rw [shapeAt?_sendable]
    cases hshape : v.shapeAt? place with
    | none => rfl
    | some s =>
      cases s with
      | double d => simp [Shape.sent, h place d hshape]
      | _ => rfl

/-- The same when it is compared with another tree that is alike. -/
theorem Alike.sendable_alike_iff (h : v.Alike w) : v.sendable.Alike w ↔ w.IsJson := by
  rw [← Value.sendable_alike_iff]
  have hsent : ∀ place, v.sendable.shapeAt? place = w.sendable.shapeAt? place := by
    intro place
    rw [shapeAt?_sendable, shapeAt?_sendable, h place]
  constructor
  · intro hv place
    exact (hsent place).symm.trans (hv place)
  · intro hw place
    exact (hsent place).trans (hw place)

mutual

theorem sendable_eq_self : ∀ v : Value, v.isSendable = true → v.sendable = v
  | .absent, _ | .null, _ | .bool _, _ | .int _, _ | .text _, _ => rfl
  | .double d, h => by
    rw [isSendable, Bool.not_eq_true'] at h
    rw [sendable, h, if_neg Bool.false_ne_true]
  | .list items, h => congrArg list (sendableItems_eq_self items h)
  | .object ms, h => congrArg object (sendableMembers_eq_self ms h)

theorem sendableItems_eq_self : ∀ items : List Value, allSendable items = true →
    sendableItems items = items
  | [], _ => rfl
  | v :: rest, h => by
    rw [allSendable, Bool.and_eq_true] at h
    rw [sendableItems, sendable_eq_self v h.1, sendableItems_eq_self rest h.2]

theorem sendableMembers_eq_self : ∀ ms : List (String × Value), allMembersSendable ms = true →
    sendableMembers ms = ms
  | [], _ => rfl
  | (k, v) :: rest, h => by
    rw [allMembersSendable, Bool.and_eq_true] at h
    rw [sendableMembers, sendable_eq_self v h.1, sendableMembers_eq_self rest h.2]

end

theorem isJson_of_isSendable (h : v.isSendable = true) : v.IsJson := by
  rw [← sendable_alike_iff, sendable_eq_self v h]
  exact Alike.refl v

/-! ## Lists and objects that are alike -/

theorem alike_list_iff : (list vs).Alike (list ws) ↔ List.Forall₂ Alike vs ws := by
  rw [List.forall₂_iff_get]
  constructor
  · intro h
    refine ⟨Shape.list.inj (Option.some.inj (h [])), ?_⟩
    intro i hv hw place
    have hplace : (vs[i]?).bind (·.shapeAt? place) = (ws[i]?).bind (·.shapeAt? place) :=
      h (.index i :: place)
    rw [List.getElem?_eq_getElem hv, List.getElem?_eq_getElem hw] at hplace
    exact hplace
  · rintro ⟨hlength, hitems⟩ place
    rcases place with _ | ⟨name | i, rest⟩
    · exact congrArg (fun n => some (Shape.list n)) hlength
    · rfl
    · show (vs[i]?).bind (·.shapeAt? rest) = (ws[i]?).bind (·.shapeAt? rest)
      by_cases hi : i < vs.length
      · have hi' : i < ws.length := hlength ▸ hi
        rw [List.getElem?_eq_getElem hi, List.getElem?_eq_getElem hi']
        exact hitems i hi hi' rest
      · have hi' : ¬ i < ws.length := hlength ▸ hi
        rw [List.getElem?_eq_none (Nat.le_of_not_lt hi),
          List.getElem?_eq_none (Nat.le_of_not_lt hi')]

theorem alike_object (h : ∀ key, ms.get? key = ns.get? key) : (object ms).Alike (object ns) := by
  intro place
  rcases place with _ | ⟨name | i, rest⟩
  · rfl
  · exact congrArg (·.bind (·.shapeAt? rest)) (h name)
  · rfl

end Value

end Rulebook
