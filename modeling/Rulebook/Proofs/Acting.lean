import Rulebook.Proofs.Assigning
import Rulebook.Simulation

/-!
# What the actions of a rule do

A rule that fires takes its actions one after the other. What each of them does to an object is
`Slot.act`, which either assigns or leaves everything as it is, so what all of them do is a fold
(`Simulation.applyAll_fst_object`). An action never does anything to a tree that is no object
(`Simulation.applyAll_fst_root`).
-/

set_option autoImplicit false

namespace Rulebook

namespace Value

/-- A literal stands for a number, a truth value or a text, and each of these stops assignments. -/
theorem members?_ofLiteral (literal : String) :
    Slot.members? (some (ofLiteral literal)) = none := by
  unfold ofLiteral
  cases Literal.read literal with
  | number n => cases n <;> rfl
  | truth b => rfl
  | text s => rfl

theorem eq_object_of_members? {tree : Value} {ms : Members} (h : tree.members? = some ms) :
    tree = .object ms := by
  cases tree with
  | object _ => exact congrArg Value.object (Option.some.inj h)
  | _ => exact nomatch h

end Value

namespace Action

/-- The keys at which an action assigns. Setting and modifying do, unless the target is blank. -/
def keys? (a : Action) : Option (List String) :=
  match ActionKind.ofTag? a.tag with
  | some .setProperty | some .modifyFact =>
    if Text.isBlankText a.target then none else some (Path.segments a.target)
  | _ => none

/-- What the trace says of an action that does not fail. -/
def done (a : Action) : Simulation.Event :=
  match ActionKind.ofTag? a.tag with
  | some .setProperty => .assigned a.target a.literal
  | some .callMethod => .called a.literal
  | some .insertFact => .inserted a.target
  | some .deleteFact => .deleted a.target
  | some .modifyFact => .modified a.target a.literal
  | none => .unknownKind a.tag

theorem done_ne_failed (a : Action) (e : AssignError) : a.done ≠ .failed e := by
  unfold done
  split <;> exact nofun

theorem keys?_eq_some {a : Action} {keys : List String} (h : a.keys? = some keys) :
    Text.isBlankText a.target = false ∧ keys = Path.segments a.target := by
  unfold keys? at h
  split at h
  · split_ifs at h with hblank
    exact ⟨by simpa using hblank, (Option.some.inj h).symm⟩
  · split_ifs at h with hblank
    exact ⟨by simpa using hblank, (Option.some.inj h).symm⟩
  · exact nomatch h

end Action

namespace Slot

/-- What an action leaves at the root of a tree. -/
def act (slot : Slot) (a : Action) : Slot :=
  match a.keys? with
  | some keys => some (set (.ofLiteral a.literal) slot keys)
  | none => slot

variable {slot : Slot} {a : Action} {keys : List String}

theorem act_of_keys? (h : a.keys? = some keys) :
    act slot a = some (set (.ofLiteral a.literal) slot keys) := by
  rw [act, h]

theorem act_of_keys?_none (h : a.keys? = none) : act slot a = slot := by
  rw [act, h]

end Slot

namespace Simulation

variable {tree : Value} {ms : Members} {a : Action} {keys : List String}

/-! ## One action -/

/-- The kinds of actions that do not assign do nothing, and with a blank target the others do not
either. -/
theorem effect_of_keys?_none (tree : Value) (h : a.keys? = none) :
    effect tree a = (tree, a.done) := by
  unfold Action.keys? at h
  unfold effect Action.done
  cases hkind : ActionKind.ofTag? a.tag with
  | none => rfl
  | some kind =>
    rw [hkind] at h
    cases kind with
    | setProperty | modifyFact =>
      have hblank : Text.isBlankText a.target = true := by
        by_contra hfilled
        simp [hfilled] at h
      simp [Value.assign, hblank]
    | callMethod | insertFact | deleteFact => rfl

/-- The other actions assign the value of their literal. -/
theorem effect_of_keys? (tree : Value) (h : a.keys? = some keys) :
    effect tree a =
      match tree.assign a.target (.ofLiteral a.literal) with
      | .ok changed => (changed, a.done)
      | .error e => (tree, .failed e) := by
  unfold Action.keys? at h
  unfold effect Action.done
  cases hkind : ActionKind.ofTag? a.tag with
  | none => simp [hkind] at h
  | some kind =>
    rw [hkind] at h
    cases kind with
    | setProperty | modifyFact => rfl
    | callMethod | insertFact | deleteFact => exact nomatch h

/-- What an action does to an object, and what the trace says of it: where there is an obstacle the
action fails with it. -/
theorem effect_object (ms : Members) (h : a.keys? = some keys) :
    effect (.object ms) a =
      match Slot.obstacle? "" (some (.object ms)) keys with
      | some (blocking, held) => (.object ms, .failed (.blocked a.target blocking held))
      | none => (Slot.set (.ofLiteral a.literal) (some (.object ms)) keys, a.done) := by
  obtain ⟨hfilled, rfl⟩ := Action.keys?_eq_some h
  rw [effect_of_keys? _ h, Value.assign_object hfilled ms ""]
  cases Slot.obstacle? "" (some (.object ms)) (Path.segments a.target) <;> rfl

/-- What is no object is left alone. -/
theorem effect_fst_root (h : tree.members? = none) (a : Action) : (effect tree a).1 = tree := by
  cases hkeys : a.keys? with
  | none => rw [effect_of_keys?_none tree hkeys]
  | some keys =>
    rw [effect_of_keys? tree hkeys]
    cases hassign : tree.assign a.target (.ofLiteral a.literal) with
    | error e => rfl
    | ok changed =>
      -- Only a blank target could be assigned to.
      obtain ⟨hfilled, -⟩ := Action.keys?_eq_some hkeys
      unfold Value.assign at hassign
      rw [if_neg (by simp [hfilled])] at hassign
      cases tree with
      | object ms => exact nomatch h
      | _ => dsimp only at hassign; split_ifs at hassign

/-- What an action leaves of an object is an object, the one that `Slot.act` says. -/
theorem effect_fst_object (ms : Members) (a : Action) :
    ∃ ns, (effect (.object ms) a).1 = .object ns ∧
      Slot.act (some (.object ms)) a = some (.object ns) := by
  cases hkeys : a.keys? with
  | none =>
    rw [effect_of_keys?_none _ hkeys, Slot.act_of_keys?_none hkeys]
    exact ⟨ms, rfl, rfl⟩
  | some keys =>
    obtain ⟨-, rfl⟩ := Action.keys?_eq_some hkeys
    obtain ⟨key, rest, hcons⟩ := List.exists_cons_of_ne_nil (Path.segments_ne_nil a.target)
    rw [effect_object ms hkeys, Slot.act_of_keys? hkeys]
    cases hobstacle : Slot.obstacle? "" (some (.object ms)) (Path.segments a.target) with
    | none =>
      rw [hcons, Slot.set_cons_some (Slot.members?_object ms)]
      exact ⟨_, rfl, rfl⟩
    | some blocking => exact ⟨ms, rfl, Slot.set_of_obstacle? hobstacle⟩

/-! ## All actions -/

/-- What is no object is left alone by all actions. -/
theorem applyAll_fst_root (h : tree.members? = none) (as : List (Placed Action)) :
    (applyAll tree as).1 = tree := by
  induction as with
  | nil => rfl
  | cons a rest ih =>
    show (applyAll (effect tree a.content).1 rest).1 = tree
    rw [effect_fst_root h, ih]

/-- **The actions of a rule, one after the other.** What they leave of an object is an object. -/
theorem applyAll_fst_object (ms : Members) (as : List (Placed Action)) :
    ∃ ns, (applyAll (.object ms) as).1 = .object ns ∧
      (as.map (·.content)).foldl Slot.act (some (.object ms)) = some (.object ns) := by
  induction as generalizing ms with
  | nil => exact ⟨ms, rfl, rfl⟩
  | cons a rest ih =>
    obtain ⟨ns, heffect, hact⟩ := effect_fst_object ms a.content
    obtain ⟨after, hall, hfold⟩ := ih ns
    refine ⟨after, ?_, ?_⟩
    · show (applyAll (effect (.object ms) a.content).1 rest).1 = .object after
      rw [heffect, hall]
    · rw [List.map_cons, List.foldl_cons, hact, hfold]

/-! ## A run -/

/-- The outcome of a run once its conditions are evaluated. -/
def conclude (r : LinkedRule) (input : Value) (met : Bool) (events : List Event) : Outcome :=
  let opening : List Event :=
    [.started, .rule r.rule.content.name, .found r.conditions.length r.actions.length]
  if met then
    ⟨true, (applyAll input r.actions).1,
      opening ++ events ++ .fired :: (applyAll input r.actions).2⟩
  else ⟨false, input, opening ++ events ++ [.stopped]⟩

theorem conclude_output (r : LinkedRule) (input : Value) (met : Bool) (events : List Event) :
    (conclude r input met events).output =
      if met then (applyAll input r.actions).1 else input := by
  cases met <;> rfl

theorem conclude_success (r : LinkedRule) (input : Value) (met : Bool) (events : List Event) :
    (conclude r input met events).success = met := by
  cases met <;> rfl

/-- **A run is its conditions and what is concluded from them.** -/
theorem run_eq (r : LinkedRule) (input : Value) :
    run (some r) input =
      (evaluateAll input r.conditions).map fun p => conclude r input p.1 p.2 := by
  unfold run conclude
  dsimp only
  cases evaluateAll input r.conditions with
  | error e => rfl
  | ok p =>
    obtain ⟨met, events⟩ := p
    cases met <;> rfl

/-! ## A run, step by step -/

/-- A condition has an outcome if the value it looks at has a text and can be compared. -/
theorem evaluate_of_display {input : Value} {c : Condition} {shown : String} {holds : Bool}
    (hshown : (input.resolve c.field).display = .ok shown)
    (hholds : Condition.evaluate (input.resolve c.field) c.operator c.literal = .ok holds) :
    evaluate input c = .ok (holds, [.evaluating c, .actual shown, .result holds]) := by
  unfold evaluate Condition.text
  dsimp only
  rw [hshown, hholds]
  rfl

section Conditions

variable {input : Value} {c : Placed Condition} {rest : List (Placed Condition)} {met : Bool}
  {events more : List Event}

theorem evaluateAll_cons_of_holds (hc : evaluate input c.content = .ok (true, events))
    (hrest : evaluateAll input rest = .ok (met, more)) :
    evaluateAll input (c :: rest) = .ok (met, events ++ more) := by
  refine bind_eq_ok.mpr ⟨_, hc, ?_⟩
  exact bind_eq_ok.mpr ⟨_, hrest, rfl⟩

theorem evaluateAll_cons_of_fails (hc : evaluate input c.content = .ok (false, events)) :
    evaluateAll input (c :: rest) = .ok (false, events) :=
  bind_eq_ok.mpr ⟨_, hc, rfl⟩

theorem run_of_evaluateAll {r : LinkedRule} (h : evaluateAll input r.conditions = .ok (met, events)) :
    run (some r) input = .ok (conclude r input met events) := by
  rw [run_eq, h]
  rfl

end Conditions

end Simulation

end Rulebook
