import Rulebook.Proofs.Account
import Rulebook.Proofs.Lens

/-!
# What a run leaves at each path

The actions of a rule change a tree only by assigning, and an action that fails or has no place to
assign at changes nothing. So what is read after a run at a path that no assignment comes near is
what was read before it, and at the target of an action that took effect it is the value of its
literal, unless a later action that took effect assigned on the way to that target, at it or below
it.

Both are laws of one action first, and then of a list of actions, each taken on the tree that those
before it left.
-/

set_option autoImplicit false

namespace Rulebook.Simulation

variable {input tree : Value} {a : Placed Action} {as : List (Placed Action)}
  {keys place : List String} {i : Nat}

/-- An action assigns at some keys, and on the given tree its assignment goes through. -/
def TakesEffect (tree : Value) (a : Placed Action) (keys : List String) : Prop :=
  a.content.keys? = some keys ∧ ∃ changed, a.content.assigned tree = .ok changed

/-- The action at a place of a list takes effect, on the tree that the actions before it left. -/
def EffectiveAt (input : Value) (as : List (Placed Action)) (i : Nat) (a : Placed Action)
    (keys : List String) : Prop :=
  as[i]? = some a ∧ TakesEffect ((as.take i).foldl next input) a keys

/-! ## One action -/

/-- Setting and modifying assign the value of their literal. -/
theorem assigned_of_keys? (h : a.content.keys? = some keys) (tree : Value) :
    a.content.assigned tree = tree.assign a.content.target (.ofLiteral a.content.literal) := by
  unfold Action.keys? at h
  unfold Action.assigned
  cases hkind : ActionKind.ofTag? a.content.tag with
  | none => rw [hkind] at h; exact nomatch h
  | some kind =>
    rw [hkind] at h
    cases kind with
    | setProperty | modifyFact => rfl
    | callMethod | insertFact | deleteFact => exact nomatch h

/-- An action without a place to assign at leaves the tree as it is. -/
theorem next_of_keys?_none (h : a.content.keys? = none) (tree : Value) : next tree a = tree := by
  have heffect := effect_of_keys?_none tree h
  rw [effect_eq] at heffect
  exact (Prod.mk.inj heffect).1

/-- What does not take effect leaves the tree as it is. -/
theorem next_of_no_effect (h : ∀ keys, ¬ TakesEffect tree a keys) : next tree a = tree := by
  cases hkeys : a.content.keys? with
  | none => exact next_of_keys?_none hkeys tree
  | some keys =>
    unfold next
    cases hassign : a.content.assigned tree with
    | ok changed => exact absurd ⟨hkeys, changed, hassign⟩ (h keys)
    | error e => rfl

/-- What takes effect does so on an object, with nothing in the way. -/
theorem TakesEffect.next_eq (h : TakesEffect tree a keys) :
    Slot.obstacle? "" (some tree) keys = none ∧
      next tree a = Slot.set (.ofLiteral a.content.literal) (some tree) keys := by
  obtain ⟨hkeys, changed, hassign⟩ := h
  obtain ⟨hfilled, rfl⟩ := Action.keys?_eq_some hkeys
  have hnext : next tree a = changed := by rw [next, hassign]
  cases hroot : tree.members? with
  | none =>
    -- Nothing is assigned in a tree that is no object.
    obtain ⟨e, he⟩ := Value.assignInPlace_of_root hfilled hroot (.ofLiteral a.content.literal)
    rw [assigned_of_keys? hkeys] at hassign
    rw [Value.assignInPlace_eq, hassign] at he
    exact nomatch he
  | some ms =>
    obtain rfl := Value.eq_object_of_members? hroot
    rw [assigned_of_keys? hkeys, Value.assign_object hfilled ms ""] at hassign
    cases hobstacle : Slot.obstacle? "" (some (.object ms)) (Path.segments a.content.target) with
    | none =>
      rw [hobstacle] at hassign
      exact ⟨rfl, hnext.trans (Except.ok.inj hassign).symm⟩
    | some blocking => rw [hobstacle] at hassign; exact nomatch hassign

/-- An action changes nothing apart from where it takes effect. -/
theorem at?_next (h : ∀ keys, TakesEffect tree a keys → Slot.Apart keys place) :
    (next tree a).at? place = tree.at? place := by
  by_cases heffect : ∃ keys, TakesEffect tree a keys
  · obtain ⟨keys, heffect⟩ := heffect
    rw [heffect.next_eq.2, Slot.at?_set_of_apart (h keys heffect), Option.bind_some]
  · rw [next_of_no_effect (not_exists.mp heffect)]

/-- Where an action takes effect the value of its literal is read. -/
theorem TakesEffect.follow_next (h : TakesEffect tree a keys) :
    (next tree a).follow keys = .ofLiteral a.content.literal := by
  rw [h.next_eq.2, Slot.follow_set h.next_eq.1]

/-! ## A list of actions -/

theorem effectiveAt_zero {rest : List (Placed Action)} (h : TakesEffect input a keys) :
    EffectiveAt input (a :: rest) 0 a keys :=
  ⟨rfl, h⟩

/-- What takes effect in the rest of a list takes effect in the list. -/
theorem EffectiveAt.cons {b : Placed Action} (h : EffectiveAt (next input b) as i a keys) :
    EffectiveAt input (b :: as) (i + 1) a keys :=
  ⟨h.1, h.2⟩

theorem EffectiveAt.append {before : List (Placed Action)}
    (h : EffectiveAt (before.foldl next input) as i a keys) :
    EffectiveAt input (before ++ as) (before.length + i) a keys := by
  induction before generalizing input with
  | nil => simpa using h
  | cons b before ih =>
    rw [List.cons_append, List.length_cons, Nat.add_right_comm]
    exact (ih h).cons

/-- **Actions change nothing apart from where they take effect.** -/
theorem at?_foldl_next (h : ∀ i a keys, EffectiveAt input as i a keys → Slot.Apart keys place) :
    (as.foldl next input).at? place = input.at? place := by
  induction as generalizing input with
  | nil => rfl
  | cons a rest ih =>
    have hfirst : (next input a).at? place = input.at? place :=
      at?_next fun keys heffect => h 0 a keys (effectiveAt_zero heffect)
    have hrest := ih fun i b keys heffect => h (i + 1) b keys heffect.cons
    exact hrest.trans hfirst

/-- **The last action that takes effect on a place settles it.** -/
theorem follow_foldl_next (h : EffectiveAt input as i a keys)
    (hlast : ∀ j b others, i < j → EffectiveAt input as j b others → Slot.Apart keys others) :
    (as.foldl next input).follow keys = .ofLiteral a.content.literal := by
  obtain ⟨hi, heffect⟩ := h
  obtain ⟨hlt, rfl⟩ := List.getElem?_eq_some_iff.mp hi
  have hsplit : as = (as.take i ++ [as[i]]) ++ as.drop (i + 1) := by
    rw [List.take_append_getElem, List.take_append_drop]
  have hlength : (as.take i ++ [as[i]]).length = i + 1 := by
    rw [List.length_append, List.length_take, Nat.min_eq_left (Nat.le_of_lt hlt),
      List.length_singleton]
  have hthen : (as.take i ++ [as[i]]).foldl next input =
      next ((as.take i).foldl next input) as[i] := by
    rw [List.foldl_append, List.foldl_cons, List.foldl_nil]
  -- The actions after this one keep clear of its place, so they leave what it has put there.
  have hlater : ∀ j b others,
      EffectiveAt ((as.take i ++ [as[i]]).foldl next input) (as.drop (i + 1)) j b others →
        Slot.Apart others keys := by
    intro j b others hb
    have hb := hb.append
    rw [← hsplit, hlength] at hb
    exact (hlast _ b others (by omega) hb).symm
  have hkept := at?_foldl_next hlater
  rw [← List.foldl_append, ← hsplit, hthen] at hkept
  rw [Value.follow_eq, hkept, ← Value.follow_eq, heffect.follow_next]

/-! ## A run -/

/-- What is read from the output of a run. -/
structure Footprint (r : LinkedRule) (input : Value) (o : Outcome) : Prop where
  /-- A path that is apart from the targets of all actions that assign reads what it read before. -/
  elsewhere : ∀ path, (∀ a ∈ r.actions, ∀ keys ∈ a.content.keys?,
    ¬ keys <+: Path.segments path ∧ ¬ Path.segments path <+: keys) →
      o.output.resolve path = input.resolve path
  /-- The target of an action that took effect reads the value of its literal, if the targets of
  all later actions that took effect are apart from it. -/
  last : o.success = true → ∀ i a keys, EffectiveAt input r.actions i a keys →
    (∀ j b others, i < j → EffectiveAt input r.actions j b others →
      ¬ keys <+: others ∧ ¬ others <+: keys) →
      o.output.resolve a.content.target = .ofLiteral a.content.literal

/-- **A run changes only what its actions target,** and at each target the last word counts. -/
theorem footprint_of_run {r : LinkedRule} {input : Value} {o : Outcome}
    (h : run (some r) input = .ok o) : Footprint r input o := by
  rw [run_eq] at h
  obtain ⟨⟨met, events⟩, -, rfl⟩ := map_eq_ok.mp h
  have houtput : (conclude r input met events).output =
      if met then r.actions.foldl next input else input := by
    rw [conclude_output, applyAll_eq]
  constructor
  · intro path hapart
    have hkept : (r.actions.foldl next input).at? (Path.segments path) =
        input.at? (Path.segments path) := by
      apply at?_foldl_next
      intro i a keys heffect
      exact hapart a (List.mem_of_getElem? heffect.1) keys heffect.2.1
    rw [houtput]
    cases met with
    | false => rfl
    | true =>
      unfold Value.resolve
      rw [if_pos rfl, Value.follow_eq, hkept, ← Value.follow_eq]
  · intro hfires i a keys heffect hlast
    obtain rfl : met = true := (conclude_success r input met events).symm.trans hfires
    obtain ⟨-, rfl⟩ := Action.keys?_eq_some heffect.2.1
    rw [houtput]
    exact follow_foldl_next heffect hlast

/-- A rule that fills in who an order is by, puts a word in the place of that, and then tries to go
through the word. -/
def replacing : LinkedRule where
  rule := ⟨"r", "Replacing", "", 1⟩
  conditions := [⟨"c", "order.id", "==", "7"⟩]
  actions := [⟨"t", "setProperty", "order.total", "10"⟩,
    ⟨"n", "setProperty", "order.by.name", "Ann"⟩, ⟨"b", "modifyFact", "order.by", "nobody"⟩,
    ⟨"e", "setProperty", "order.by.name", "Eve"⟩]

/-- The word stays, as the last action fails at it, and the number of the order is as it was. -/
theorem footprint_of_run_replacing :
    let input : Value := .object [("order", .object [("id", .int 7), ("by", .null)])]
    ∃ o, run (some replacing) input = .ok o ∧ o.success = true ∧
      EffectiveAt input replacing.actions 2 ⟨"b", "modifyFact", "order.by", "nobody"⟩
        ["order", "by"] ∧
      o.output.resolve "order.by" = .ofLiteral "nobody" ∧
      o.output.resolve "order.id" = input.resolve "order.id" := by
  intro input
  have hrun : run (some replacing) input = .ok (conclude _ _ true _) :=
    run_of_evaluateAll <|
      evaluateAll_cons_of_holds
        (evaluate_of_display (displayInt_of_lt (by decide)) (by with_unfolding_all rfl)) rfl
  obtain ⟨o, ho, hsuccess⟩ : ∃ o, run (some replacing) input = .ok o ∧ o.success = true :=
    ⟨_, hrun, conclude_success _ _ true _⟩
  have hfoot := footprint_of_run ho
  have heffect : EffectiveAt input replacing.actions 2 ⟨"b", "modifyFact", "order.by", "nobody"⟩
      ["order", "by"] := by
    refine ⟨rfl, by decide, .object [("order", .object [("id", .int 7), ("by", .text "nobody"),
      ("total", .int 10)])], ?_⟩
    with_unfolding_all rfl
  have hlast : ∀ j b others, 2 < j → EffectiveAt input replacing.actions j b others →
      ¬ ["order", "by"] <+: others ∧ ¬ others <+: ["order", "by"] := by
    -- Only the last action comes later, and it fails.
    rintro j b others hj ⟨hb, -, changed, hassign⟩
    have hlt : j < 4 := (List.getElem?_eq_some_iff.mp hb).1
    obtain rfl : j = 3 := by omega
    obtain rfl := Option.some.inj hb
    have hblocked : Action.assigned ⟨"setProperty", "order.by.name", "Eve"⟩
        ((replacing.actions.take 3).foldl next input) =
          .error (.blocked "order.by.name" "by" (.text "nobody")) := by
      rfl
    exact nomatch hassign.symm.trans hblocked
  refine ⟨o, ho, hsuccess, heffect, hfoot.last hsuccess _ _ _ heffect hlast, ?_⟩
  exact hfoot.elsewhere "order.id" (by decide)

end Rulebook.Simulation
