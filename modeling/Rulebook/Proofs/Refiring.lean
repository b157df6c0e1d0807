import Mathlib.Data.List.Induction
import Rulebook.Proofs.Acting

/-!
# Firing a rule again

A rule that fires on what it left before leaves it as it is. Single actions would make this plain,
but targets may lie on each other's way: an action that went through the first time may be blocked
the second time, and one may undo for a moment what a later one did. Two facts settle it. After the
first pass the place of every action is barred, and it stays so. And on a tree where that holds, an
action that is taken once more before a pass makes no difference if it is taken again after the
pass (`Slot.act_foldl_act`).
-/

set_option autoImplicit false

namespace Rulebook

namespace Slot

variable {slot : Slot} {a b : Action} {as : List Action}

/-- Something stops assignments on the way of every one of some actions, or at its end. -/
def Settled (slot : Slot) (as : List Action) : Prop :=
  ∀ a ∈ as, ∀ keys, a.keys? = some keys → Barred slot keys

theorem Settled.act (h : Settled slot as) (a : Action) : Settled (slot.act a) as := by
  intro b hb keys hkeys
  have hbarred := h b hb keys hkeys
  cases ha : a.keys? with
  | none => rwa [act_of_keys?_none ha]
  | some target =>
    rw [act_of_keys? ha]
    exact hbarred.set (Value.members?_ofLiteral a.literal)

theorem Settled.foldl (h : Settled slot as) (bs : List Action) :
    Settled (bs.foldl Slot.act slot) as := by
  induction bs generalizing slot with
  | nil => exact h
  | cons b rest ih => exact ih (h.act b)

/-- **After a pass every action is settled.** -/
theorem settled_foldl (slot : Slot) (as : List Action) : Settled (as.foldl act slot) as := by
  induction as generalizing slot with
  | nil => exact fun a ha => absurd ha List.not_mem_nil
  | cons a rest ih =>
    have hfirst : Settled (act slot a) [a] := by
      intro b hb keys hkeys
      rw [List.mem_singleton.mp hb] at hkeys
      rw [act_of_keys? hkeys]
      exact barred_set_self (Value.members?_ofLiteral a.literal)
    intro b hb
    rcases List.mem_cons.mp hb with rfl | hb
    · exact hfirst.foldl rest b (List.mem_singleton_self b)
    · exact ih (act slot a) b hb

/-- An action after a settled one wipes it out, or the two can be swapped. -/
theorem act_act (hsettled : Settled slot [b]) :
    act (act slot a) b = act slot b ∨ act (act slot a) b = act (act slot b) a := by
  cases ha : a.keys? with
  | none => exact .inl (by rw [act_of_keys?_none ha])
  | some p =>
    cases hb : b.keys? with
    | none => exact .inr (by rw [act_of_keys?_none hb, act_of_keys?_none hb])
    | some q =>
      have hstops := Value.members?_ofLiteral a.literal
      rw [act_of_keys? ha, act_of_keys? hb, act_of_keys? hb, act_of_keys? ha]
      by_cases hqp : q <+: p
      · exact .inl (congrArg some (set_set_above hqp))
      · refine .inr (congrArg some ?_)
        by_cases hpq : p <+: q
        · -- The second action is kept out by the first, and wiped out by it if it comes before.
          have hne : p ≠ q := fun e => hqp (e ▸ List.prefix_rfl)
          rw [set_set_below hstops hpq hne, set_set_above hpq]
        · exact set_comm_of_barred ⟨hpq, hqp⟩ (hsettled b (List.mem_singleton_self b) q hb)

theorem act_self (slot : Slot) (a : Action) : act (act slot a) a = act slot a := by
  cases ha : a.keys? with
  | none => rw [act_of_keys?_none ha, act_of_keys?_none ha]
  | some p => rw [act_of_keys? ha, act_of_keys? ha, set_set_above List.prefix_rfl]

/-- Before a pass of settled actions an action may be left out that is taken after it. -/
theorem act_foldl_act (hsettled : Settled slot as) :
    act (as.foldl act (act slot a)) a = act (as.foldl act slot) a := by
  induction as generalizing slot with
  | nil => exact act_self slot a
  | cons b rest ih =>
    have hb : Settled slot [b] := by
      intro c hc
      rw [List.mem_singleton.mp hc]
      exact hsettled b List.mem_cons_self
    have hrest : Settled (act slot b) rest :=
      Settled.act (fun c hc => hsettled c (List.mem_cons_of_mem b hc)) b
    rw [List.foldl_cons, List.foldl_cons]
    rcases act_act hb with hwiped | hswapped
    · rw [hwiped]
    · rw [hswapped, ih hrest]

/-- **A second pass changes nothing.** -/
theorem foldl_act_foldl_act (slot : Slot) (as : List Action) :
    as.foldl act (as.foldl act slot) = as.foldl act slot := by
  induction as using List.reverseRec with
  | nil => rfl
  | append_singleton before a ih =>
    rw [List.foldl_append, List.foldl_append]
    show act (before.foldl act (act (before.foldl act slot) a)) a = act (before.foldl act slot) a
    rw [act_foldl_act (settled_foldl slot before), ih]

end Slot

namespace Simulation

/-- What the actions of a rule leave is left alone when they are all taken again. -/
theorem applyAll_applyAll (tree : Value) (as : List (Placed Action)) :
    (applyAll (applyAll tree as).1 as).1 = (applyAll tree as).1 := by
  cases hroot : tree.members? with
  | none =>
    rw [applyAll_fst_root hroot, applyAll_fst_root hroot]
  | some ms =>
    obtain rfl := Value.eq_object_of_members? hroot
    obtain ⟨ns, hfirst, hfold⟩ := applyAll_fst_object ms as
    obtain ⟨ls, hsecond, hagain⟩ := applyAll_fst_object ns as
    rw [hfirst, hsecond]
    refine Option.some.inj ?_
    rw [← hagain, ← hfold, Slot.foldl_act_foldl_act]

/-- **Firing a rule is idempotent.** Taking all actions of a rule twice leaves of any tree what
taking them once does. So if a run of a rule leaves an output and the rule is run on that output,
the second output is the same, whether or not the rule fires. -/
theorem output_of_rerun (r : LinkedRule) :
    (∀ tree, (applyAll (applyAll tree r.actions).1 r.actions).1 = (applyAll tree r.actions).1) ∧
      ∀ input first second, run (some r) input = .ok first →
        run (some r) first.output = .ok second → second.output = first.output := by
  refine ⟨fun tree => applyAll_applyAll tree r.actions, ?_⟩
  intro input first second hfirst hsecond
  rw [run_eq] at hfirst hsecond
  obtain ⟨⟨met, events⟩, hmet, rfl⟩ := map_eq_ok.mp hfirst
  obtain ⟨⟨again, more⟩, hagain, rfl⟩ := map_eq_ok.mp hsecond
  rw [conclude_output r input] at hagain ⊢
  rw [conclude_output]
  cases again with
  | false => rfl
  | true =>
    cases met with
    | true => exact applyAll_applyAll input r.actions
    | false =>
      -- The second run is on the same input, so its conditions come out the same.
      exact absurd (hmet.symm.trans hagain) (by simp)

/-- A rule whose actions get in each other's way. -/
def overlapping : LinkedRule where
  rule := ⟨"r", "Overlapping", "", 1⟩
  conditions := [⟨"c", "a.b", "!=", "7"⟩]
  actions := [⟨"x", "setProperty", "a.b", "1"⟩, ⟨"y", "modifyFact", "a", "two"⟩,
    ⟨"z", "setProperty", "a.c.d", "3"⟩, ⟨"blank", "setProperty", " ", "4"⟩]

/-- On an object with a null below `a` the first two actions go through and the third does not; the
second time the first one is blocked as well. -/
theorem output_of_rerun_overlapping :
    let input : Value := .object [("a", .object [("c", .null)])]
    ∃ first second, run (some overlapping) input = .ok first ∧
      first.output = .object [("a", .text "two")] ∧
      run (some overlapping) first.output = .ok second ∧ second.output = first.output := by
  intro input
  have hfirst : (run (some overlapping) input).map Outcome.output =
      .ok (.object [("a", .text "two")]) := by
    with_unfolding_all rfl
  obtain ⟨first, hfirst, houtput⟩ := map_eq_ok.mp hfirst
  have hsecond : ((run (some overlapping) first.output).map fun _ => ()) = .ok () := by
    rw [houtput]
    with_unfolding_all rfl
  obtain ⟨second, hsecond, -⟩ := map_eq_ok.mp hsecond
  exact ⟨first, second, hfirst, houtput, hsecond,
    (output_of_rerun overlapping).2 input first second hfirst hsecond⟩

end Simulation

end Rulebook
