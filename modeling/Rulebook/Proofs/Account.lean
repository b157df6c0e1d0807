import Rulebook.Proofs.Acting

/-!
# The account that a run gives of itself

A run looks at the conditions of its rule one by one, on the input as it came, up to the first that
does not hold (`Simulation.consulted`). Then it stops, or it takes the actions one by one, each on
the tree that the ones before it left. The trace is written along the way, and `Simulation.Account`
says all of what it tells, line by line.

Conditions and actions are followed separately. Each has a step lemma, for a single condition or
action, and an induction over the list that carries the step through the whole run.
-/

set_option autoImplicit false

namespace Rulebook

namespace Action

/-- What an action makes of a tree, or why it fails. Only setting and modifying assign anything. -/
def assigned (a : Action) (tree : Value) : Except AssignError Value :=
  match ActionKind.ofTag? a.tag with
  | some .setProperty | some .modifyFact => tree.assign a.target (.ofLiteral a.literal)
  | _ => .ok tree

end Action

namespace Simulation

variable {input tree : Value}

/-! ## Conditions -/

/-- A condition holds on an input. -/
def Holds (input : Value) (c : Condition) : Prop :=
  Condition.evaluate (input.resolve c.field) c.operator c.literal = .ok true

instance (input : Value) (c : Condition) : Decidable (Holds input c) :=
  inferInstanceAs (Decidable (_ = _))

/-- The conditions that hold, from the first one on, and the first one that does not. -/
def consulted (input : Value) (cs : List (Placed Condition)) : List (Placed Condition) :=
  cs.takeWhile (fun c => decide (Holds input c.content)) ++
    (cs.dropWhile fun c => decide (Holds input c.content)).take 1

/-- The three events about a condition: what is evaluated, the text of the value that is found in
the input, and what comes of it. -/
def Tells (input : Value) (c : Placed Condition) (events : List Event) : Prop :=
  ∃ shown holds, Condition.text (input.resolve c.content.field) = .ok shown ∧
    Condition.evaluate (input.resolve c.content.field) c.content.operator c.content.literal =
      .ok holds ∧
    events = [.evaluating c.content, .actual shown, .result holds]

theorem consulted_cons_of_holds {c : Placed Condition} (h : Holds input c.content)
    (rest : List (Placed Condition)) :
    consulted input (c :: rest) = c :: consulted input rest := by
  simp [consulted, h]

theorem consulted_cons_of_not_holds {c : Placed Condition} (h : ¬ Holds input c.content)
    (rest : List (Placed Condition)) : consulted input (c :: rest) = [c] := by
  simp [consulted, h]

/-- One condition. -/
theorem evaluate_tells {c : Placed Condition} {holds : Bool} {events : List Event}
    (h : evaluate input c.content = .ok (holds, events)) :
    (holds = true ↔ Holds input c.content) ∧ Tells input c events := by
  obtain ⟨shown, hshown, h⟩ := bind_eq_ok.mp h
  obtain ⟨b, hb, h⟩ := bind_eq_ok.mp h
  obtain ⟨rfl, rfl⟩ := Prod.mk.inj (Except.ok.inj h)
  constructor
  · unfold Holds
    rw [hb]
    simp
  · exact ⟨shown, b, hshown, hb, rfl⟩

/-- All conditions: whether they hold, and what is told of those that are consulted. -/
theorem evaluateAll_tells : ∀ {cs : List (Placed Condition)} {met : Bool} {events : List Event},
    evaluateAll input cs = .ok (met, events) →
      (met = true ↔ ∀ c ∈ cs, Holds input c.content) ∧
        ∃ blocks, List.Forall₂ (Tells input) (consulted input cs) blocks ∧ events = blocks.flatten
  | [], met, events, h => by
    obtain ⟨rfl, rfl⟩ := Prod.mk.inj (Except.ok.inj h)
    exact ⟨by simp, [], .nil, rfl⟩
  | c :: rest, met, events, h => by
    rw [evaluateAll] at h
    obtain ⟨⟨holds, first⟩, hc, h⟩ := bind_eq_ok.mp h
    obtain ⟨hholds, htells⟩ := evaluate_tells hc
    rw [List.forall_mem_cons]
    cases holds with
    | false =>
      -- The rest is not looked at.
      have hfails : ¬ Holds input c.content := by simpa using hholds
      obtain ⟨rfl, rfl⟩ := Prod.mk.inj (Except.ok.inj h)
      rw [consulted_cons_of_not_holds hfails]
      refine ⟨by simp [hfails], [first], .cons htells .nil, ?_⟩
      simp
    | true =>
      have hc' : Holds input c.content := hholds.mp rfl
      obtain ⟨⟨met', more⟩, hrest, h⟩ := bind_eq_ok.mp h
      obtain ⟨rfl, rfl⟩ := Prod.mk.inj (Except.ok.inj h)
      obtain ⟨hmet, blocks, hblocks, rfl⟩ := evaluateAll_tells hrest
      rw [consulted_cons_of_holds hc']
      refine ⟨by simp [hc', hmet], first :: blocks, .cons htells hblocks, ?_⟩
      rw [List.flatten_cons]

theorem length_flatten_of_tells {cs : List (Placed Condition)} {blocks : List (List Event)}
    (h : List.Forall₂ (Tells input) cs blocks) : blocks.flatten.length = 3 * cs.length := by
  induction h with
  | nil => rfl
  | cons htells _ ih =>
    obtain ⟨shown, holds, -, -, rfl⟩ := htells
    rw [List.flatten_cons, List.length_append, ih, List.length_cons]
    simp only [List.length_cons, List.length_nil]
    omega

/-! ## Actions -/

/-- The tree after an action: the one that its assignment leaves, or the same if it fails. -/
def next (tree : Value) (a : Placed Action) : Value :=
  match a.content.assigned tree with
  | .ok changed => changed
  | .error _ => tree

/-- What is reported of an action that is taken on a tree. -/
def report (tree : Value) (a : Placed Action) : Event :=
  match a.content.assigned tree with
  | .ok _ => a.content.done
  | .error e => .failed e

/-- The events about some actions: two for each of them, on the tree that those before it left. -/
def actionEvents (tree : Value) : List (Placed Action) → List Event
  | [] => []
  | a :: rest => .executing a.content :: report tree a :: actionEvents (next tree a) rest

/-- One action. -/
theorem effect_eq (tree : Value) (a : Placed Action) :
    effect tree a.content = (next tree a, report tree a) := by
  unfold next report Action.assigned effect Action.done
  cases hkind : ActionKind.ofTag? a.content.tag with
  | none => rfl
  | some kind =>
    cases kind with
    | setProperty | modifyFact =>
      cases tree.assign a.content.target (.ofLiteral a.content.literal) <;> rfl
    | callMethod | insertFact | deleteFact => rfl

/-- All actions. -/
theorem applyAll_eq (tree : Value) (as : List (Placed Action)) :
    applyAll tree as = (as.foldl next tree, actionEvents tree as) := by
  induction as generalizing tree with
  | nil => rfl
  | cons a rest ih =>
    unfold applyAll
    simp only [effect_eq, ih]
    rfl

theorem length_actionEvents (tree : Value) (as : List (Placed Action)) :
    (actionEvents tree as).length = 2 * as.length := by
  induction as generalizing tree with
  | nil => rfl
  | cons a rest ih =>
    rw [actionEvents, List.length_cons, List.length_cons, ih, List.length_cons]
    omega

/-- The second event about an action. -/
theorem getElem?_actionEvents (tree : Value) (as : List (Placed Action)) (i : Nat) :
    (actionEvents tree as)[2 * i + 1]? =
      as[i]?.map fun a => report ((as.take i).foldl next tree) a := by
  induction as generalizing tree i with
  | nil => rfl
  | cons a rest ih =>
    cases i with
    | zero => rfl
    | succ i =>
      rw [actionEvents, show 2 * (i + 1) + 1 = 2 * i + 1 + 1 + 1 by omega,
        List.getElem?_cons_succ, List.getElem?_cons_succ, ih]
      rfl

/-! ## Lines -/

/-- A line of a trace that tells of an error. -/
def IsErrorLine (line : String) : Prop :=
  "Error executing action".toList <+: line.toList

theorem isErrorLine_failed (e : AssignError) : IsErrorLine (Event.failed e).text := by
  show _ <+: ("Error executing action: " ++ e.kind ++ ": " ++ e.message).toList
  have hstart : "Error executing action".toList <+: "Error executing action: ".toList := by decide
  rw [String.append_assoc, String.append_assoc, String.toList_append]
  exact hstart.trans (List.prefix_append _ _)

/-- A line that starts with another letter tells of no error. -/
theorem not_isErrorLine_append {start : String} (h : start.toList.head?.getD 'E' ≠ 'E')
    (rest : String) : ¬ IsErrorLine (start ++ rest) := by
  rintro ⟨tail, htail⟩
  rw [String.toList_append] at htail
  cases hstart : start.toList with
  | nil => simp [hstart] at h
  | cons c cs =>
    rw [hstart] at h htail
    obtain ⟨hc, -⟩ := List.cons.inj htail
    exact h hc.symm

theorem not_isErrorLine_done (a : Action) : ¬ IsErrorLine a.done.text := by
  unfold Action.done
  cases ActionKind.ofTag? a.tag with
  | none => exact not_isErrorLine_append (by decide) a.tag
  | some kind =>
    cases kind with
    | setProperty | modifyFact =>
      show ¬ IsErrorLine (_ ++ a.target ++ " = " ++ a.literal)
      rw [String.append_assoc, String.append_assoc]
      exact not_isErrorLine_append (by decide) _
    | callMethod | insertFact | deleteFact =>
      show ¬ IsErrorLine (_ ++ _ ++ " (simulated)")
      rw [String.append_assoc]
      exact not_isErrorLine_append (by decide) _

theorem isErrorLine_report_iff (tree : Value) (a : Placed Action) :
    IsErrorLine (report tree a).text ↔ ∃ e, a.content.assigned tree = .error e := by
  unfold report
  cases a.content.assigned tree with
  | ok changed => exact iff_of_false (not_isErrorLine_done a.content) (by simp)
  | error e => exact iff_of_true (isErrorLine_failed e) ⟨e, rfl⟩

/-! ## A run -/

/-- The three lines that a trace starts with. -/
def header (r : LinkedRule) : List Event :=
  [.started, .rule r.rule.content.name, .found r.conditions.length r.actions.length]

/-- What the outcome of a run tells of it. -/
structure Account (r : LinkedRule) (input : Value) (o : Outcome) : Prop where
  /-- The rule fires exactly when all of its conditions hold on the input as it came. -/
  success : o.success = true ↔ ∀ c ∈ r.conditions, Holds input c.content
  rulesExecuted : o.rulesExecuted = if o.success then 1 else 0
  output : o.output = if o.success then r.actions.foldl next input else input
  /-- After the header come the conditions that are consulted, the verdict and the actions. -/
  trace : ∃ blocks, List.Forall₂ (Tells input) (consulted input r.conditions) blocks ∧
    o.trace = header r ++ blocks.flatten ++ (if o.success then .fired else .stopped) ::
      (if o.success then actionEvents input r.actions else [])
  length : o.trace.length = 4 + 3 * (consulted input r.conditions).length +
    if o.success then 2 * r.actions.length else 0
  /-- The second line about an action tells of an error exactly when the action fails on the tree
  that the actions before it left. -/
  errors : o.success = true → ∀ i a, r.actions[i]? = some a → ∃ event,
    o.trace[4 + 3 * (consulted input r.conditions).length + (2 * i + 1)]? = some event ∧
      (IsErrorLine event.text ↔
        ∃ e, a.content.assigned ((r.actions.take i).foldl next input) = .error e)

theorem conclude_trace (r : LinkedRule) (input : Value) (met : Bool) (events : List Event) :
    (conclude r input met events).trace =
      header r ++ events ++ (if met then .fired else .stopped) ::
        (if met then actionEvents input r.actions else []) := by
  unfold conclude
  rw [applyAll_eq]
  cases met <;> rfl

/-- What comes before the verdict: three lines, and three for each condition that is consulted. -/
theorem length_header_append {r : LinkedRule} {blocks : List (List Event)}
    (h : List.Forall₂ (Tells input) (consulted input r.conditions) blocks) :
    (header r ++ blocks.flatten).length = 3 + 3 * (consulted input r.conditions).length := by
  rw [List.length_append, length_flatten_of_tells h]
  rfl

/-- **The trace tells what happened.** -/
theorem account_of_run {r : LinkedRule} {input : Value} {o : Outcome}
    (h : run (some r) input = .ok o) : Account r input o := by
  rw [run_eq] at h
  obtain ⟨⟨met, events⟩, hevaluated, rfl⟩ := map_eq_ok.mp h
  obtain ⟨hmet, blocks, hblocks, rfl⟩ := evaluateAll_tells hevaluated
  have hbefore := length_header_append hblocks
  have hsuccess : (conclude r input met blocks.flatten).success = met := by
    cases met <;> rfl
  constructor
  · rw [hsuccess]
    exact hmet
  · rfl
  · rw [conclude_output, applyAll_eq, hsuccess]
  · rw [conclude_trace, hsuccess]
    exact ⟨blocks, hblocks, rfl⟩
  · rw [conclude_trace, hsuccess, List.length_append, hbefore, List.length_cons]
    cases met with
    | false =>
      simp only [Bool.false_eq_true, if_false, List.length_nil]
      omega
    | true =>
      simp only [if_true, length_actionEvents]
      omega
  · rintro hfires i a ha
    obtain rfl : met = true := hsuccess.symm.trans hfires
    refine ⟨report ((r.actions.take i).foldl next input) a, ?_, isErrorLine_report_iff _ a⟩
    have hplace : 4 + 3 * (consulted input r.conditions).length + (2 * i + 1) =
        (header r ++ blocks.flatten).length + (2 * i + 1 + 1) := by
      rw [hbefore]
      omega
    rw [conclude_trace, hplace, List.getElem?_append_right (Nat.le_add_right _ _),
      Nat.add_sub_cancel_left, List.getElem?_cons_succ, if_pos rfl, getElem?_actionEvents, ha,
      Option.map_some]

/-- A rule with an action that fails between two that do not. -/
def promoting : LinkedRule where
  rule := ⟨"r", "Promoting", "", 1⟩
  conditions := [⟨"age", "age", ">=", "18"⟩, ⟨"level", "level", "!=", "gold"⟩]
  actions := [⟨"x", "setProperty", "level", "gold"⟩, ⟨"y", "modifyFact", "level.since", "2024"⟩,
    ⟨"z", "deleteFact", "age", ""⟩]

/-- An adult is promoted, and the second action is reported as an error; a child is not, and of the
second condition nothing is told. -/
theorem account_of_run_promoting :
    ∃ o o', run (some promoting) (.object [("age", .int 18)]) = .ok o ∧
      Account promoting (.object [("age", .int 18)]) o ∧ o.success = true ∧ o.trace.length = 16 ∧
      run (some promoting) (.object [("age", .int 7)]) = .ok o' ∧
      Account promoting (.object [("age", .int 7)]) o' ∧ o'.success = false ∧
      o'.trace.length = 7 := by
  have hadult : run (some promoting) (.object [("age", .int 18)]) = .ok (conclude _ _ true _) :=
    run_of_evaluateAll <|
      evaluateAll_cons_of_holds
        (evaluate_of_display (displayInt_of_lt (by decide)) (by with_unfolding_all rfl)) <|
      evaluateAll_cons_of_holds (evaluate_of_display rfl (by rfl)) rfl
  have hchild : run (some promoting) (.object [("age", .int 7)]) = .ok (conclude _ _ false _) :=
    run_of_evaluateAll <|
      evaluateAll_cons_of_fails
        (evaluate_of_display (displayInt_of_lt (by decide)) (by with_unfolding_all rfl))
  exact ⟨_, _, hadult, account_of_run hadult, rfl, rfl, hchild, account_of_run hchild, rfl, rfl⟩

end Simulation

end Rulebook
