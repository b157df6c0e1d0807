import Rulebook.Drl
import Rulebook.Proofs.Drawn
import Rulebook.Proofs.Linking

/-!
# Where the core has a result

Checking a graph, writing out its rule and applying its actions always have a result. Two steps need
not have one: reading the graph of a drawing, whose fields count as their texts, and evaluating a
condition. Both are settled exactly here. A drawing has a graph when its fields have texts, and a
run has an outcome when each condition that it comes to is `Answerable`.

So there are drawings and inputs on which the core gives up: an integer of more than 4300 digits
where a text is needed, and two kinds of patterns that are reported and not just never matched.
-/

set_option autoImplicit false

namespace Rulebook

/-- The salience of a document can be written out when the priority it comes from can. -/
theorem Drl.Document.natAbs_salience_lt {r : LinkedRule}
    (h : r.rule.content.priority.natAbs < digitBound) :
    (Drl.Document.ofLinked r).salience.natAbs < digitBound := by
  unfold Drl.Document.ofLinked
  dsimp only
  split_ifs
  · exact Nat.lt_of_le_of_lt Nat.one_le_two_pow two_pow_lt_digitBound
  · exact h

/-! ## Evaluating a condition -/

/-- A text is a pattern that is reported, not just never matched. -/
def Pattern.refuses (p : String) : Bool :=
  match parse p with
  | .ok _ => false
  | .error fault => fault.isRefused

/-- Whether an operator can be evaluated next to a given literal. Only `contains` and `matches` look
at the text of the literal, and for `matches` it must not be a pattern that is reported. -/
def Operator.Takes (op : Operator) (literal : Value) : Prop :=
  match op with
  | .contains => literal.Displayable
  | .matches => ∃ p, literal.display = .ok p ∧ Pattern.refuses p = false
  | _ => True

namespace Condition

/-- A condition has an outcome on a value: the value has a text, for the trace, and the operator
takes the literal. An operator that is not known takes any. -/
structure Answerable (c : Condition) (actual : Value) : Prop where
  shown : actual.Displayable
  taken : ∀ op, Operator.ofTag? c.operator = some op → op.Takes (.ofLiteral c.literal)

theorem exists_text_eq_ok {v : Value} : (∃ s, text v = .ok s) ↔ v.Displayable := by
  unfold text
  simp only [mapError_eq_ok, Value.exists_display_eq_ok]

/-- Comparing needs no more than a text of the value: the literal counts as a number or a text
however long it is. -/
theorem exists_compareNumbers_eq_ok {test : Number → Number → Bool} {actual : Value}
    (h : actual.Displayable) (literal : String) :
    ∃ b, compareNumbers test actual (.ofLiteral literal) = .ok b := by
  obtain ⟨m, hm⟩ := Value.exists_toNumber_eq_ok h
  obtain ⟨n, hn⟩ := Value.exists_toNumber_ofLiteral literal
  exact ⟨test m n, bind_eq_ok.mpr
    ⟨m, mapError_eq_ok.mpr hm, bind_eq_ok.mpr ⟨n, mapError_eq_ok.mpr hn, rfl⟩⟩⟩

theorem exists_looselyEq_eq_ok {shared : Bool} {actual : Value} (h : actual.Displayable)
    (literal : String) : ∃ b, actual.looselyEq shared (.ofLiteral literal) = .ok b := by
  obtain ⟨s, hs⟩ := Value.exists_toScalar_eq_ok h
  obtain ⟨t, ht⟩ := Value.exists_toScalar_ofLiteral literal
  unfold Value.looselyEq
  split_ifs
  · exact ⟨_, rfl⟩
  · exact ⟨_, rfl⟩
  · exact ⟨_, rfl⟩
  · exact ⟨s.looselyEq t, bind_eq_ok.mpr ⟨s, hs, bind_eq_ok.mpr ⟨t, ht, rfl⟩⟩⟩

theorem exists_matchesPattern_eq_ok {actual expected : Value} (h : actual.Displayable) :
    (∃ b, matchesPattern actual expected = .ok b) ↔ Operator.matches.Takes expected := by
  obtain ⟨subject, hsubject⟩ := exists_text_eq_ok.mpr h
  unfold matchesPattern
  rw [exists_bind_eq_ok, Operator.Takes]
  refine exists_congr fun p => and_congr mapError_eq_ok ?_
  unfold Pattern.refuses
  -- The value is only looked at under a pattern that was read, and it has a text.
  cases hparse : Pattern.parse p with
  | ok pattern => simp [hsubject, bind, Except.bind, pure, Except.pure]
  | error fault => cases fault <;> simp [Pattern.Fault.isRefused, pure, Except.pure]

/-- **On a value with a text an operator has an outcome exactly when it takes the literal.** -/
theorem exists_holds_eq_ok {op : Operator} {actual : Value} (h : actual.Displayable)
    (literal : String) :
    (∃ b, holds op actual (.ofLiteral literal) = .ok b) ↔ op.Takes (.ofLiteral literal) := by
  obtain ⟨equal, hequal⟩ := exists_looselyEq_eq_ok h literal
  cases op with
  | equal => exact iff_of_true ⟨equal, mapError_eq_ok.mpr hequal⟩ trivial
  | different =>
    exact iff_of_true ⟨_, mapError_eq_ok.mpr (map_eq_ok.mpr ⟨equal, hequal, rfl⟩)⟩ trivial
  | greater | less | atLeast | atMost =>
    exact iff_of_true (exists_compareNumbers_eq_ok h literal) trivial
  | contains =>
    unfold holds
    rw [exists_bind_eq_ok_and fun _ => exists_bind_pure_eq_ok, exists_text_eq_ok,
      exists_text_eq_ok, and_iff_left h, Operator.Takes]
  | «matches» => exact exists_matchesPattern_eq_ok h

end Condition

namespace Simulation

theorem exists_evaluate_eq_ok {input : Value} {c : Condition} :
    (∃ b, evaluate input c = .ok b) ↔ c.Answerable (input.resolve c.field) := by
  unfold evaluate
  rw [exists_bind_eq_ok_and fun _ => exists_bind_pure_eq_ok, Condition.exists_text_eq_ok]
  unfold Condition.evaluate
  constructor
  · rintro ⟨hshown, hholds⟩
    refine ⟨hshown, fun op hop => ?_⟩
    rw [hop] at hholds
    exact (Condition.exists_holds_eq_ok hshown c.literal).mp hholds
  · rintro ⟨hshown, htaken⟩
    refine ⟨hshown, ?_⟩
    cases hop : Operator.ofTag? c.operator with
    | none => exact ⟨false, rfl⟩
    | some op => exact (Condition.exists_holds_eq_ok hshown c.literal).mpr (htaken op hop)

/-- The conditions that a run comes to: all before one of them hold. -/
inductive Reached (input : Value) : List (Placed Condition) → Condition → Prop
  | here (c : Placed Condition) (rest : List (Placed Condition)) :
    Reached input (c :: rest) c.content
  | later {c : Placed Condition} {rest : List (Placed Condition)} {d : Condition}
    (holds : Condition.evaluate (input.resolve c.content.field) c.content.operator
      c.content.literal = .ok true) (reached : Reached input rest d) : Reached input (c :: rest) d

/-- The outcome that the trace shows is that of the condition. -/
theorem evaluate_fst {input : Value} {c : Condition} {holds : Bool} {events : List Event}
    (h : evaluate input c = .ok (holds, events)) :
    Condition.evaluate (input.resolve c.field) c.operator c.literal = .ok holds := by
  obtain ⟨shown, -, h⟩ := bind_eq_ok.mp h
  obtain ⟨b, hb, h⟩ := bind_eq_ok.mp h
  obtain ⟨rfl, -⟩ := Prod.mk.inj (Except.ok.inj h)
  exact hb

/-- Conditions are evaluated exactly as long as each that is come to has an outcome. -/
theorem exists_evaluateAll_eq_ok {input : Value} : ∀ {cs : List (Placed Condition)},
    (∃ b, evaluateAll input cs = .ok b) ↔
      ∀ c, Reached input cs c → c.Answerable (input.resolve c.field)
  | [] => ⟨fun _ _ h => (nomatch h), fun _ => ⟨_, rfl⟩⟩
  | c :: rest => by
    rw [evaluateAll, exists_bind_eq_ok]
    -- The first condition is always come to, the rest only if the first one holds.
    constructor
    · rintro ⟨⟨holds, events⟩, hc, hrest⟩ d hd
      cases hd with
      | here => exact exists_evaluate_eq_ok.mp ⟨_, hc⟩
      | later hholds hd =>
        obtain rfl : holds = true := Except.ok.inj ((evaluate_fst hc).symm.trans hholds)
        exact exists_evaluateAll_eq_ok.mp (exists_bind_pure_eq_ok.mp hrest) d hd
    · intro h
      obtain ⟨⟨holds, events⟩, hc⟩ := exists_evaluate_eq_ok.mpr (h c.content (.here c rest))
      refine ⟨_, hc, ?_⟩
      cases holds with
      | false => exact ⟨_, rfl⟩
      | true =>
        have hrest : ∀ d, Reached input rest d → d.Answerable (input.resolve d.field) :=
          fun d hd => h d (.later (evaluate_fst hc) hd)
        exact exists_bind_pure_eq_ok.mpr (exists_evaluateAll_eq_ok.mpr hrest)

/-- A run that has evaluated its conditions always comes to an end: no action can stop it. -/
theorem exists_run_eq_ok {r : LinkedRule} {input : Value} :
    (∃ o, run (some r) input = .ok o) ↔ ∃ b, evaluateAll input r.conditions = .ok b := by
  unfold run
  dsimp only
  rw [exists_bind_eq_ok_and (P := True), and_true]
  rintro ⟨met, events⟩
  cases met with
  | false => exact ⟨fun _ => trivial, fun _ => ⟨_, rfl⟩⟩
  | true => exact ⟨fun _ => trivial, fun _ => ⟨_, rfl⟩⟩

end Simulation

/-- **When the core has a result.** A drawing has a graph exactly when its fields have texts. From
then on only a run can go without one: the priority that a rule source shows can always be written
out, and a run of any rule has an outcome exactly when every condition that it comes to is
answerable. Checking, writing and acting are functions, with nothing to fail. -/
theorem core_returns_iff (d : Drawing) (rule : Option LinkedRule) (input : Value) :
    ((∃ g, d.toGraph = .ok g) ↔ ∀ n ∈ d.nodes, ∀ v ∈ n.textFields, v.Displayable) ∧
      (∀ g r, d.toGraph = .ok g → g.link = some r →
        ∃ s, displayInt (Drl.Document.ofLinked r).salience = .ok s) ∧
      ((∃ o, Simulation.run rule input = .ok o) ↔
        ∀ r, rule = some r → ∀ c, Simulation.Reached input r.conditions c →
          c.Answerable (input.resolve c.field)) := by
  refine ⟨Drawing.exists_toGraph_eq_ok, ?_, ?_⟩
  · intro g r hg hr
    obtain ⟨hfirst, -, -⟩ := Graph.link_eq_some hr
    have hpriority := Drawing.priority_lt_of_toGraph hg (List.mem_of_head? hfirst)
    exact exists_displayInt_eq_ok.mpr (Drl.Document.natAbs_salience_lt hpriority)
  · cases rule with
    | none => exact iff_of_true ⟨_, rfl⟩ (fun _ h => nomatch h)
    | some r =>
      rw [Simulation.exists_run_eq_ok, Simulation.exists_evaluateAll_eq_ok]
      exact ⟨fun h r' hr => Option.some.inj hr ▸ h, fun h => h r rfl⟩

/-- A drawing of one rule whose condition matches a value against the given one. -/
def matching (value : Value) : Value :=
  .object [
    ("nodes", .list [
      .object [("id", .text "r"), ("type", .text "rule"), ("data", .object [("name", .text "R")])],
      .object [("id", .text "c"), ("type", .text "condition"), ("data", .object
        [("field", .text "a"), ("operator", .text "matches"), ("value", value)])],
      .object [("id", .text "x"), ("type", .text "action"), ("data", .object
        [("type", .text "deleteFact"), ("target", .text "a"), ("value", .text "1")])]]),
    ("edges", .list [
      .object [("source", .text "r"), ("target", .text "c")],
      .object [("source", .text "r"), ("target", .text "x")]])]

/-- **Not every drawing and not every run has a result.** With a long integer in a field the drawing
has no graph; with a pattern that switches to both repertoires the graph is valid, and its rule
fails on every input. -/
theorem not_every_run_returns :
    (∃ d, Drawing.ofValue (matching (.int digitBound)) = .ok d ∧
      d.toGraph = .error .tooManyDigits) ∧
    ∃ d g, Drawing.ofValue (matching (.text "(?a)(?u)")) = .ok d ∧ d.toGraph = .ok g ∧
      g.isValid = true ∧ ∀ input, ¬ ∃ o, Simulation.run g.link input = .ok o := by
  have hlost : ∃ d, Drawing.ofValue (matching (.int digitBound)) = .ok d ∧
      d.toGraph = .error .tooManyDigits :=
    ⟨_, rfl, Drawing.toGraph_eq_error_iff.mpr
      ⟨_, .tail _ (.head _), _, .tail _ (.tail _ (.head _)), Value.not_displayable_digitBound⟩⟩
  refine ⟨hlost, _, _, rfl, rfl, rfl, ?_⟩
  rintro input ⟨o, ho⟩
  -- The condition is the first one, so the run comes to it on any input.
  have hall := Simulation.exists_evaluateAll_eq_ok.mp (Simulation.exists_run_eq_ok.mp ⟨o, ho⟩)
  obtain ⟨p, hp, htaken⟩ := (hall _ (.here _ _)).taken .matches rfl
  obtain rfl : "(?a)(?u)" = p := Except.ok.inj hp
  have hrefused : Pattern.refuses "(?a)(?u)" = true := by decide +kernel
  exact absurd (hrefused.symm.trans htaken) (by decide)

end Rulebook
