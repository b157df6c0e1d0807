import Rulebook.Proofs.Acting
import Rulebook.Proofs.Tree

/-!
# Taking the actions of a rule in another order

Actions whose targets are apart do not see each other. Whether one of them fails, and with which
obstacle, is settled by the input alone (`Simulation.applyAll_snd`), so the trace tells of each of
them the same in every order. The trees they leave are the same but for the order of members: two
actions may add keys to one object, and then they do it in the order in which they are taken.
-/

set_option autoImplicit false

namespace Rulebook

namespace Slot

/-! ## Places that hold the same -/

/-- Nothing that can be read from two places differs. -/
def Alike (s t : Slot) : Prop :=
  ∀ place, s.bind (·.shapeAt? place) = t.bind (·.shapeAt? place)

section Alike

variable {s t u : Slot} {v w : Value} {ms ns : Members}

theorem Alike.refl (s : Slot) : Alike s s := fun _ => rfl

theorem Alike.symm (h : Alike s t) : Alike t s := fun place => (h place).symm

theorem Alike.trans (h : Alike s t) (h' : Alike t u) : Alike s u :=
  fun place => (h place).trans (h' place)

/-- Two objects are alike when they are alike under every key. -/
theorem alike_object_iff :
    Alike (some (.object ms)) (some (.object ns)) ↔ ∀ key, Alike (ms.get? key) (ns.get? key) := by
  constructor
  · intro h key place
    exact h (.key key :: place)
  · intro h place
    cases place with
    | nil => rfl
    | cons step rest =>
      cases step with
      | index n => rfl
      | key name => exact h name rest

/-- Members that are alike stay so when a key is set to values that are alike. -/
theorem Alike.insert {key : String} (h : ∀ other, Alike (ms.get? other) (ns.get? other))
    (hv : Alike (some v) (some w)) :
    Alike (some (.object (ms.insert key v))) (some (.object (ns.insert key w))) := by
  rw [alike_object_iff]
  intro other
  rw [Members.get?_insert, Members.get?_insert]
  by_cases hkey : key = other
  · simpa [hkey] using hv
  · simpa [hkey] using h other

/-- An assignment goes on from one of two places that are alike exactly when it does from the other,
and then with members that are alike. -/
theorem Alike.members? (h : Alike s t) :
    (Slot.members? s = none ∧ Slot.members? t = none) ∨
      ∃ ms ns, Slot.members? s = some ms ∧ Slot.members? t = some ns ∧
        ∀ key, Alike (ms.get? key) (ns.get? key) := by
  have hroot := h []
  cases s with
  | none =>
    cases t with
    | none => exact .inr ⟨[], [], rfl, rfl, fun key => .refl _⟩
    | some w => exact nomatch hroot
  | some v =>
    cases t with
    | none => exact nomatch hroot
    | some w =>
      have hshape : v.shape = w.shape := Option.some.inj hroot
      cases v with
      | null =>
        cases w with
        | null => exact .inr ⟨[], [], rfl, rfl, fun key => .refl _⟩
        | _ => exact nomatch hshape
      | object ms =>
        cases w with
        | object ns => exact .inr ⟨ms, ns, rfl, rfl, alike_object_iff.mp h⟩
        | _ => exact nomatch hshape
      | _ =>
        cases w with
        | null | object _ => exact nomatch hshape
        | _ => exact .inl ⟨rfl, rfl⟩

/-- Assigning to places that are alike leaves values that are alike. -/
theorem Alike.set (h : Alike s t) (v : Value) (keys : List String) :
    Alike (some (Slot.set v s keys)) (some (Slot.set v t keys)) := by
  induction keys generalizing s t with
  | nil => exact .refl _
  | cons key rest ih =>
    rcases h.members? with ⟨hs, ht⟩ | ⟨ms, ns, hs, ht, hmembers⟩
    · rw [set_cons_none hs, set_cons_none ht]
      exact h
    · rw [set_cons_some hs, set_cons_some ht]
      exact .insert hmembers (ih (hmembers key))

end Alike

/-! ## Swapping -/

section Swap

variable {slot : Slot} {v w : Value} {p q : List String}

/-- **Assignments apart from each other can be swapped.** -/
theorem set_comm (h : Apart p q) :
    Alike (some (set v (some (set w slot p)) q)) (some (set w (some (set v slot q)) p)) := by
  induction p generalizing slot q with
  | nil => exact (not_apart_nil h).elim
  | cons k p ih =>
    obtain ⟨l, q, rfl, hrest⟩ := h.cases_cons
    cases hms : members? slot with
    | none =>
      simp only [set_cons_none hms]
      exact .refl slot
    | some ms =>
      rw [set_cons_some hms, set_cons_some hms, set_cons_some (members?_object _),
        set_cons_some (members?_object _)]
      by_cases hkl : k = l
      · -- Both go on below the same key.
        subst hkl
        rw [Members.get?_insert_self, Members.get?_insert_self, Members.insert_insert,
          Members.insert_insert]
        exact .insert (fun other => .refl _) (ih (hrest rfl))
      · -- They set different keys, and only the order of these may differ.
        rw [Members.get?_insert_of_ne hkl, Members.get?_insert_of_ne (Ne.symm hkl),
          alike_object_iff]
        intro other
        simp only [Members.get?_insert]
        by_cases hl : l = other
        · have hk : ¬ k = other := fun e => hkl (e.trans hl.symm)
          simpa [hl, hk] using Alike.refl _
        · simpa [hl] using Alike.refl _

end Swap

end Slot

/-! ## Actions apart from each other -/

namespace Action

/-- Neither of two actions assigns on the way of the other. -/
def Apart (a b : Action) : Prop :=
  ∀ p ∈ a.keys?, ∀ q ∈ b.keys?, Slot.Apart p q

instance (a b : Action) : Decidable (a.Apart b) :=
  inferInstanceAs (Decidable (∀ p ∈ a.keys?, ∀ q ∈ b.keys?, Slot.Apart p q))

theorem Apart.symm {a b : Action} (h : a.Apart b) : b.Apart a :=
  fun p hp q hq => (h q hq p hp).symm

end Action

namespace Slot

variable {s t slot : Slot} {a b : Action}

theorem Alike.act (h : Alike s t) (a : Action) : Alike (Slot.act s a) (Slot.act t a) := by
  cases ha : a.keys? with
  | none =>
    rw [act_of_keys?_none ha, act_of_keys?_none ha]
    exact h
  | some keys =>
    rw [act_of_keys? ha, act_of_keys? ha]
    exact h.set _ keys

theorem Alike.foldl (h : Alike s t) (as : List Action) :
    Alike (as.foldl Slot.act s) (as.foldl Slot.act t) := by
  induction as generalizing s t with
  | nil => exact h
  | cons a rest ih => exact ih (h.act a)

theorem act_comm (h : a.Apart b) (slot : Slot) :
    Alike (act (act slot a) b) (act (act slot b) a) := by
  cases ha : a.keys? with
  | none =>
    rw [act_of_keys?_none ha, act_of_keys?_none ha]
    exact .refl _
  | some p =>
    cases hb : b.keys? with
    | none =>
      rw [act_of_keys?_none hb, act_of_keys?_none hb]
      exact .refl _
    | some q =>
      rw [act_of_keys? ha, act_of_keys? hb, act_of_keys? hb, act_of_keys? ha]
      exact set_comm (h p ha q hb)

/-- **In every order the same.** Along a permutation of actions that are apart from each other each
swap of two neighbours leaves the place alike. -/
theorem foldl_act_perm {as bs : List Action} (hperm : as.Perm bs)
    (hapart : as.Pairwise Action.Apart) (slot : Slot) :
    Alike (as.foldl act slot) (bs.foldl act slot) := by
  induction hperm generalizing slot with
  | nil => exact .refl slot
  | cons a _ ih =>
    rw [List.pairwise_cons] at hapart
    exact ih hapart.2 (act slot a)
  | swap a b rest =>
    rw [List.pairwise_cons] at hapart
    exact (act_comm (hapart.1 a List.mem_cons_self) slot).foldl rest
  | trans hfirst _ ih ih' =>
    have hmiddle := hfirst.pairwise hapart fun h => h.symm
    exact (ih hapart slot).trans (ih' hmiddle slot)

end Slot

namespace Simulation

/-- No two of some actions assign on each other's way. -/
def Independent (as : List (Placed Action)) : Prop :=
  as.Pairwise fun a b => a.content.Apart b.content

instance (as : List (Placed Action)) : Decidable (Independent as) :=
  inferInstanceAs (Decidable (as.Pairwise fun a b => a.content.Apart b.content))

/-- What the trace tells of an action that is taken on a tree. -/
def told (tree : Value) (a : Placed Action) : List Event :=
  [.executing a.content, (effect tree a.content).2]

/-- An action comes to the same before and after an action apart from it: it fails with the same
obstacle, or it does not fail. -/
theorem effect_snd_effect {a b : Action} (h : a.Apart b) (tree : Value) :
    (effect (effect tree a).1 b).2 = (effect tree b).2 := by
  cases hroot : tree.members? with
  | none => rw [effect_fst_root hroot]
  | some ms =>
    obtain rfl : tree = .object ms := Value.eq_object_of_members? hroot
    obtain ⟨ns, heffect, hact⟩ := effect_fst_object ms a
    rw [heffect]
    cases hb : b.keys? with
    | none => rw [effect_of_keys?_none _ hb, effect_of_keys?_none _ hb]
    | some q =>
      have hobstacle : Slot.obstacle? "" (some (.object ns)) q =
          Slot.obstacle? "" (some (.object ms)) q := by
        rw [← hact]
        cases ha : a.keys? with
        | none => rw [Slot.act_of_keys?_none ha]
        | some p => rw [Slot.act_of_keys? ha, Slot.obstacle?_set (h p ha q hb)]
      rw [effect_object ns hb, effect_object ms hb, hobstacle]
      cases Slot.obstacle? "" (some (.object ms)) q <;> rfl

/-- **The trace of independent actions.** Each of them is told of as if it were the only one. -/
theorem applyAll_snd {as : List (Placed Action)} (h : Independent as) (tree : Value) :
    (applyAll tree as).2 = as.flatMap (told tree) := by
  induction as generalizing tree with
  | nil => rfl
  | cons a rest ih =>
    obtain ⟨hfirst, hrest⟩ := List.pairwise_cons.mp h
    have hsame : rest.flatMap (told (effect tree a.content).1) = rest.flatMap (told tree) := by
      apply List.flatMap_congr
      intro b hb
      unfold told
      rw [effect_snd_effect (hfirst b hb)]
    show .executing a.content :: (effect tree a.content).2 ::
      (applyAll (effect tree a.content).1 rest).2 = _
    rw [ih hrest, hsame]
    rfl

/-- The trees that independent actions leave in two orders are alike. -/
theorem applyAll_fst_perm {as bs : List (Placed Action)} (hperm : as.Perm bs) (h : Independent as)
    (tree : Value) : (applyAll tree as).1.Alike (applyAll tree bs).1 := by
  cases hroot : tree.members? with
  | none =>
    rw [applyAll_fst_root hroot, applyAll_fst_root hroot]
    exact .refl tree
  | some ms =>
    obtain rfl : tree = .object ms := Value.eq_object_of_members? hroot
    obtain ⟨ns, has, hfold⟩ := applyAll_fst_object ms as
    obtain ⟨ls, hbs, hfold'⟩ := applyAll_fst_object ms bs
    have hapart : (as.map (·.content)).Pairwise Action.Apart := List.pairwise_map.mpr h
    have halike := Slot.foldl_act_perm (hperm.map (·.content)) hapart (some (.object ms))
    rw [hfold, hfold'] at halike
    rw [has, hbs]
    exact halike

/-- **Independent actions commute.** When no two actions of a rule assign on each other's way,
taking them in another order makes no difference to a run: it fails or not, and with the same
failure; the rule fires or not; the outputs are alike; and the trace is the same up to the actions,
and from there on it tells of each action what it would tell of it alone on the input, in the order
of the actions. -/
theorem run_perm {r : LinkedRule} {actions : List (Placed Action)} (hperm : r.actions.Perm actions)
    (h : Independent r.actions) (input : Value) :
    (∀ e, run (some r) input = .error e ↔ run (some { r with actions }) input = .error e) ∧
      ∀ o, run (some r) input = .ok o → ∃ o', run (some { r with actions }) input = .ok o' ∧
        o'.success = o.success ∧ o.output.Alike o'.output ∧
        ∃ before,
          o.trace = before ++ (if o.success then r.actions.flatMap (told input) else []) ∧
          o'.trace = before ++ (if o.success then actions.flatMap (told input) else []) := by
  have h' : Independent actions := hperm.pairwise h fun h => h.symm
  rw [run_eq, run_eq]
  cases evaluateAll input r.conditions with
  | error e => exact ⟨fun _ => Iff.rfl, nofun⟩
  | ok p =>
    obtain ⟨met, events⟩ := p
    refine ⟨fun e => ⟨nofun, nofun⟩, ?_⟩
    intro o ho
    obtain rfl : conclude r input met events = o := Except.ok.inj ho
    refine ⟨conclude { r with actions } input met events, rfl, ?_⟩
    unfold conclude
    rw [applyAll_snd h, applyAll_snd h', hperm.length_eq]
    cases met with
    | false => exact ⟨rfl, .refl input, _, (List.append_nil _).symm, (List.append_nil _).symm⟩
    | true =>
      refine ⟨rfl, applyAll_fst_perm hperm h input, ?_⟩
      -- What comes before the actions ends with the line that says that the rule fires.
      refine ⟨[.started, .rule r.rule.content.name, .found r.conditions.length actions.length] ++
        events ++ [.fired], ?_, ?_⟩
      · simp
      · simp

/-- A rule with actions that share parents, one with a blank target, and one that does not assign.
-/
def sharing : LinkedRule where
  rule := ⟨"r", "Sharing", "", 1⟩
  conditions := [⟨"c", "order.total", "!=", "7"⟩]
  actions := [⟨"t", "setProperty", "order.total", "10"⟩,
    ⟨"v", "modifyFact", "order.by.vip", "true"⟩, ⟨"n", "setProperty", "order.by.name", "Ann"⟩,
    ⟨"f", "setProperty", "tags.first", "new"⟩,
    ⟨"b", "setProperty", " ", "4"⟩, ⟨"d", "deleteFact", "order", ""⟩]

/-- Taken from last to first, the actions fill the same places, each object in another order, and
the one that is blocked by a list is blocked again. -/
theorem run_perm_sharing :
    let input : Value := .object [("order", .object [("by", .null)]), ("tags", .list [])]
    Independent sharing.actions ∧ sharing.actions.Perm sharing.actions.reverse ∧
      ∃ o o', run (some sharing) input = .ok o ∧
        run (some { sharing with actions := sharing.actions.reverse }) input = .ok o' ∧
        o'.success = true ∧ o.output.Alike o'.output ∧ o.output ≠ o'.output := by
  intro input
  have hindependent : Independent sharing.actions := by decide
  have hperm : sharing.actions.Perm sharing.actions.reverse := (List.reverse_perm _).symm
  have hrun : (run (some sharing) input).map (fun o => (o.success, o.output)) =
      .ok (true, .object [("order", .object [("by", .object [("vip", .bool true),
        ("name", .text "Ann")]), ("total", .int 10)]), ("tags", .list [])]) := by
    with_unfolding_all rfl
  have hreversed : (run (some { sharing with actions := sharing.actions.reverse }) input).map
      (fun o => o.output) = .ok (.object [("order", .object [("by", .object [("name", .text "Ann"),
        ("vip", .bool true)]), ("total", .int 10)]), ("tags", .list [])]) := by
    with_unfolding_all rfl
  obtain ⟨o, ho, hresult⟩ := map_eq_ok.mp hrun
  obtain ⟨hsuccess, houtput⟩ := Prod.mk.inj hresult
  obtain ⟨o', ho', hfires, halike, -⟩ := (run_perm hperm hindependent input).2 o ho
  obtain ⟨_, hsame, houtput'⟩ := map_eq_ok.mp hreversed
  obtain rfl := Except.ok.inj (ho'.symm.trans hsame)
  refine ⟨hindependent, hperm, o, o', ho, ho', hfires.trans hsuccess, halike, ?_⟩
  rw [houtput, houtput']
  decide

end Simulation

end Rulebook
