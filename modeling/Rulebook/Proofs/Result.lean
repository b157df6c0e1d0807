import Mathlib.Data.List.Forall2
import Rulebook.Fault

/-!
# When a computation has a result

Most of the library computes in `Except`: a step gives a result, or an error that ends the whole.
The lemmas here say of each way of combining steps when the whole has a result and which one, so
that a later proof takes a computation apart without unfolding it.

The second half does the same for `Checked`, whose combinators go on after a fault: they have a
result exactly when every part has one.
-/

set_option autoImplicit false

namespace Rulebook

section Steps

variable {ε δ α β : Type}

/-- Two steps have a result when the first has one and the second has one on it. -/
theorem bind_eq_ok {x : Except ε α} {f : α → Except ε β} {b : β} :
    (x >>= f) = .ok b ↔ ∃ a, x = .ok a ∧ f a = .ok b := by
  cases x with
  | error e => simp [bind, Except.bind]
  | ok a => simp [bind, Except.bind]

theorem map_eq_ok {x : Except ε α} {f : α → β} {b : β} :
    x.map f = .ok b ↔ ∃ a, x = .ok a ∧ f a = b := by
  cases x with
  | error e => simp [Except.map]
  | ok a => simp [Except.map]

theorem mapError_eq_ok {x : Except ε α} {f : ε → δ} {a : α} :
    x.mapError f = .ok a ↔ x = .ok a := by
  cases x with
  | error e => simp [Except.mapError]
  | ok a => simp [Except.mapError]

/-- Whether two steps have a result, when the second has one on whatever the first gives. -/
theorem exists_bind_eq_ok {x : Except ε α} {f : α → Except ε β} :
    (∃ b, (x >>= f) = .ok b) ↔ ∃ a, x = .ok a ∧ ∃ b, f a = .ok b := by
  constructor
  · rintro ⟨b, h⟩
    obtain ⟨a, ha, hf⟩ := bind_eq_ok.mp h
    exact ⟨a, ha, b, hf⟩
  · rintro ⟨a, ha, b, hf⟩
    exact ⟨b, bind_eq_ok.mpr ⟨a, ha, hf⟩⟩

/-- Two steps have a result when each of them has one, for a second step that has one or not
whatever the first one gives. -/
theorem exists_bind_eq_ok_and {x : Except ε α} {f : α → Except ε β} {P : Prop}
    (h : ∀ a, (∃ b, f a = .ok b) ↔ P) :
    (∃ b, (x >>= f) = .ok b) ↔ (∃ a, x = .ok a) ∧ P := by
  rw [exists_bind_eq_ok]
  constructor
  · rintro ⟨a, ha, hf⟩
    exact ⟨⟨a, ha⟩, (h a).mp hf⟩
  · rintro ⟨⟨a, ha⟩, hP⟩
    exact ⟨a, ha, (h a).mpr hP⟩

/-- A step that cannot fail makes no difference to whether there is a result. -/
theorem exists_bind_pure_eq_ok {x : Except ε α} {f : α → β} :
    (∃ b, (x >>= fun a => pure (f a)) = .ok b) ↔ ∃ a, x = .ok a := by
  have hpure : ∀ a, (∃ b, (pure (f a) : Except ε β) = .ok b) ↔ True :=
    fun a => ⟨fun _ => trivial, fun _ => ⟨f a, rfl⟩⟩
  rw [exists_bind_eq_ok_and hpure, and_true]

/-- A step for every element of a list has a result when each of them has one. -/
theorem exists_mapM_eq_ok {f : α → Except ε β} : ∀ {as : List α},
    (∃ bs, as.mapM f = .ok bs) ↔ ∀ a ∈ as, ∃ b, f a = .ok b
  | [] => by simp [pure, Except.pure]
  | a :: as => by
    rw [List.mapM_cons, exists_bind_eq_ok, List.forall_mem_cons]
    constructor
    · rintro ⟨b, hb, hrest⟩
      obtain ⟨bs, hbs, -⟩ := exists_bind_eq_ok.mp hrest
      exact ⟨⟨b, hb⟩, exists_mapM_eq_ok.mp ⟨bs, hbs⟩⟩
    · rintro ⟨⟨b, hb⟩, hrest⟩
      obtain ⟨bs, hbs⟩ := exists_mapM_eq_ok.mpr hrest
      exact ⟨b, hb, exists_bind_eq_ok.mpr ⟨bs, hbs, b :: bs, rfl⟩⟩

/-- Whatever a step for every element of a list gives comes from one of the elements. -/
theorem exists_of_mem_mapM {f : α → Except ε β} : ∀ {as : List α} {bs : List β} {b : β},
    as.mapM f = .ok bs → b ∈ bs → ∃ a ∈ as, f a = .ok b
  | [], _, _, h, hb => by
    obtain rfl : [] = _ := Except.ok.inj h
    exact absurd hb List.not_mem_nil
  | a :: as, _, b, h, hb => by
    rw [List.mapM_cons] at h
    obtain ⟨b', hb', hrest⟩ := bind_eq_ok.mp h
    obtain ⟨bs, hbs, hcons⟩ := bind_eq_ok.mp hrest
    obtain rfl : b' :: bs = _ := Except.ok.inj hcons
    rcases List.mem_cons.mp hb with rfl | hb
    · exact ⟨a, List.mem_cons_self, hb'⟩
    · obtain ⟨x, hx, hfx⟩ := exists_of_mem_mapM hbs hb
      exact ⟨x, List.mem_cons_of_mem a hx, hfx⟩

end Steps

namespace Checked

variable {α β : Type}

theorem under_eq_ok {step : Step} {c : Checked α} {a : α} : c.under step = .ok a ↔ c = .ok a :=
  mapError_eq_ok

theorem both_eq_ok {c : Checked α} {d : Checked β} {p : α × β} :
    c.both d = .ok p ↔ c = .ok p.1 ∧ d = .ok p.2 := by
  obtain ⟨x, y⟩ := p
  cases c with
  | error es => cases d <;> simp [both]
  | ok a => cases d <;> simp [both]

theorem ap_ok (f : Checked (α → β)) (x : α) : f.ap (.ok x) = f.map (· x) := by
  cases f with
  | error es => rfl
  | ok g => rfl

/-- What is done with the result of a function can be done by the function. -/
theorem map_ap {γ : Type} (u : β → γ) (f : Checked (α → β)) (a : Checked α) :
    (f.ap a).map u = Checked.ap (f.map fun g x => u (g x)) a := by
  cases f with
  | error es => cases a <;> rfl
  | ok g => cases a <;> rfl

theorem map_fst_both {γ : Type} (u : α → γ) (c : Checked α) (d : Checked β) :
    ((c.both d).map (·.1)).map u = (Checked.both (c.map u) d).map (·.1) := by
  cases c with
  | error es => cases d <;> rfl
  | ok a => cases d <;> rfl

/-- The results for a list are the results for its items, in order. -/
theorem each_eq_ok {check : α → Checked β} : ∀ {n : Nat} {as : List α} {bs : List β},
    each check n as = .ok bs ↔ List.Forall₂ (fun a b => check a = .ok b) as bs
  | _, [], bs => by cases bs <;> simp [each]
  | n, a :: as, bs => by
    rw [each, map_eq_ok]
    constructor
    · rintro ⟨p, hp, rfl⟩
      obtain ⟨ha, has⟩ := both_eq_ok.mp hp
      exact .cons (under_eq_ok.mp ha) (each_eq_ok.mp has)
    · rintro (_ | ⟨ha, has⟩)
      exact ⟨(_, _), both_eq_ok.mpr ⟨under_eq_ok.mpr ha, each_eq_ok.mpr has⟩, rfl⟩

end Checked

namespace Value

variable {α : Type} {check : Value → Checked α}

theorem asListOf_eq_ok {v : Value} {as : List α} :
    v.asListOf check = .ok as ↔
      ∃ items, v = .list items ∧ List.Forall₂ (fun item a => check item = .ok a) items as := by
  cases v with
  | list items => simp [asListOf, Checked.each_eq_ok]
  | _ => simp [asListOf, Checked.fail]

theorem asText_eq_ok {v : Value} {s : String} : v.asText = .ok s ↔ v = .text s := by
  cases v with
  | text t => simp [asText]
  | _ => simp [asText, Checked.fail]

/-- A text that may be null is there, or there is null. -/
theorem asOptionalText_eq_ok {v : Value} {o : Option String} :
    v.asOptionalText = .ok o ↔ v = (o.map text).getD .null := by
  cases v with
  | null => cases o <;> simp [asOptionalText]
  | text t => cases o <;> simp [asOptionalText, asText, Except.map]
  | _ => cases o <;> simp [asOptionalText, asText, Checked.fail, Except.map]

theorem asObject_eq_ok {v : Value} {ms : Members} : v.asObject = .ok ms ↔ v = .object ms := by
  cases v with
  | object ns => simp [asObject]
  | _ => simp [asObject, Checked.fail]

/-- A record is read from the members of an object. -/
theorem exists_of_record {kind : FaultKind} {read : Members → Checked α} {v : Value} {a : α}
    (h : (match v.members? with
      | some ms => read ms
      | none => Checked.fail kind v) = .ok a) : ∃ ms, v = .object ms ∧ read ms = .ok a := by
  cases v with
  | object ms => exact ⟨ms, rfl, h⟩
  | _ => simp [members?, Checked.fail] at h

/-- What a check promises of every result it promises of all results for a list. -/
theorem forall_of_asListOf {P : α → Prop} (hcheck : ∀ item a, check item = .ok a → P a)
    {v : Value} {as : List α} (h : v.asListOf check = .ok as) : ∀ a ∈ as, P a := by
  obtain ⟨items, -, hitems⟩ := asListOf_eq_ok.mp h
  clear h
  induction hitems with
  | nil => exact List.forall_mem_nil P
  | cons ha _ ih => exact List.forall_mem_cons.mpr ⟨hcheck _ _ ha, ih⟩

end Value

namespace Members

variable {α : Type} {ms : Members} {key : String} {check : Value → Checked α}

/-- A member that has to be there is what its check gives. -/
theorem required_eq_ok {a : α} :
    ms.required key check = .ok a ↔ ∃ v, ms.get? key = some v ∧ check v = .ok a := by
  unfold required
  rw [Checked.under_eq_ok]
  cases ms.get? key with
  | none => simp [Checked.fail]
  | some v => simp

/-- A member that may be left out is what its check gives, or the default. -/
theorem optional_eq_ok {default a : α} :
    ms.optional key default check = .ok a ↔
      (∃ v, ms.get? key = some v ∧ check v = .ok a) ∨ (ms.get? key = none ∧ a = default) := by
  unfold optional
  rw [Checked.under_eq_ok]
  cases ms.get? key with
  | none => simp [eq_comm]
  | some v => simp

/-- What the default has and the check promises holds of a member that may be left out. -/
theorem of_optional_eq_ok {P : α → Prop} {default a : α} (hdefault : P default)
    (hcheck : ∀ v a, check v = .ok a → P a) (h : ms.optional key default check = .ok a) : P a := by
  rcases optional_eq_ok.mp h with ⟨v, -, hv⟩ | ⟨-, rfl⟩
  · exact hcheck v a hv
  · exact hdefault

/-- No member has one of the given keys. -/
def Avoids (ms : Members) (keys : List String) : Prop :=
  ∀ m ∈ ms, m.1 ∉ keys

theorem avoids_without (ms : Members) (keys : List String) : (ms.without keys).Avoids keys := by
  intro m hm
  obtain ⟨-, hkept⟩ := List.mem_filter.mp hm
  simpa using hkept

theorem Avoids.without_eq {keys : List String} (h : ms.Avoids keys) : ms.without keys = ms :=
  List.filter_eq_self.mpr fun m hm => by simpa using h m hm

theorem Avoids.get?_eq_none {keys : List String} (h : ms.Avoids keys) (hkey : key ∈ keys) :
    ms.get? key = none := by
  unfold get?
  rw [Option.map_eq_none_iff, List.find?_eq_none]
  intro m hm hfound
  exact h m hm (beq_iff_eq.mp hfound ▸ hkey)

theorem get?_without (ms : Members) (keys : List String) (key : String) :
    (ms.without keys).get? key = if key ∈ keys then none else ms.get? key := by
  by_cases hkey : key ∈ keys
  · rw [if_pos hkey]
    exact (avoids_without ms keys).get?_eq_none hkey
  · rw [if_neg hkey]
    unfold get? without
    rw [List.find?_filter]
    refine congrArg (Option.map Prod.snd) (congrArg (List.find? · ms) ?_)
    funext m
    by_cases hm : m.1 = key
    · simp [hm, hkey]
    · simp [hm]

theorem Avoids.filter {keys : List String} (h : ms.Avoids keys) (p : String × Value → Bool) :
    Avoids (List.filter p ms) keys :=
  fun m hm => h m (List.mem_of_mem_filter hm)

end Members

end Rulebook
