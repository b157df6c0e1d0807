import Mathlib.Data.List.Nodup
import Rulebook.Proofs.Linking

/-!
# Every gap is reported once

A `Gap` is a place of a graph where something is missing, and `Graph.Lacks` says what it means that
it is missing there, without going through the graph in any order. Validation goes through the nodes
of each kind and the edges, and `Graph.defects_reported` says that it comes to every gap exactly
once and to nothing else.

Whether there is a gap is a question about which nodes and which edges there are. So it does not
depend on their order, an edge may be there several times, and a further edge opens no gap.
-/

set_option autoImplicit false

namespace Rulebook

/-- A place where something is missing. Nodes are counted from zero among those of their kind. -/
inductive Gap
  | noRule
  | unnamedRule (index : Nat)
  | noCondition
  | noAction
  | blankCondition (index : Nat) (part : ConditionField)
  | blankAction (index : Nat) (part : ActionField)
  | noEdgeToCondition
  | noEdgeToAction
deriving DecidableEq

/-- How a gap is reported. Authors count from one, and of a rule without a name they are not told
which it is. -/
def Gap.defect : Gap → Defect
  | .noRule => .noRule
  | .unnamedRule _ => .unnamedRule
  | .noCondition => .noCondition
  | .noAction => .noAction
  | .blankCondition index part => .blankCondition (index + 1) part
  | .blankAction index part => .blankAction (index + 1) part
  | .noEdgeToCondition => .noEdgeToCondition
  | .noEdgeToAction => .noEdgeToAction

namespace Graph

def Leads {α : Type} (g : Graph) (targets : List (Placed α)) : Prop :=
  ∃ e ∈ g.edges, (∃ r ∈ g.rules, r.id = e.source) ∧ ∃ p ∈ targets, p.id = e.target

/-- Something is missing at a place. -/
def Lacks (g : Graph) : Gap → Prop
  | .noRule => g.rules = []
  | .unnamedRule i => ∃ r, g.rules[i]? = some r ∧ Text.isBlankText r.content.name = true
  | .noCondition => g.conditions = []
  | .noAction => g.actions = []
  | .blankCondition i part =>
    ∃ c, g.conditions[i]? = some c ∧ Text.isBlankText (part.of c.content) = true
  | .blankAction i part => ∃ a, g.actions[i]? = some a ∧ Text.isBlankText (part.of a.content) = true
  | .noEdgeToCondition => ¬ g.Leads g.conditions
  | .noEdgeToAction => ¬ g.Leads g.actions

/-! ## Checks of all nodes of a kind -/

section Located

variable {α β : Type} {check : α → List β} {gap : Nat → β → Gap} {as : List α}

/-- What a check finds in the elements of a list, each with the place of the element. -/
def located (check : α → List β) (gap : Nat → β → Gap) (as : List α) : List Gap :=
  as.zipIdx.flatMap fun p => (check p.1).map (gap p.2)

theorem mem_located {x : Gap} :
    x ∈ located check gap as ↔ ∃ i a b, as[i]? = some a ∧ b ∈ check a ∧ gap i b = x := by
  simp only [located, List.mem_flatMap, List.mem_map, Prod.exists, List.mk_mem_zipIdx_iff_getElem?]
  constructor
  · rintro ⟨a, i, ha, b, hb, hx⟩
    exact ⟨i, a, b, ha, hb, hx⟩
  · rintro ⟨i, a, b, ha, hb, hx⟩
    exact ⟨a, i, ha, b, hb, hx⟩

theorem nodup_located (hcheck : ∀ a, (check a).Nodup)
    (hgap : ∀ i j b c, gap i b = gap j c → i = j ∧ b = c) : (located check gap as).Nodup := by
  unfold located
  rw [List.nodup_flatMap]
  constructor
  · intro p _
    exact (hcheck p.1).map fun b c h => (hgap _ _ _ _ h).2
  · have hplaces : as.zipIdx.Pairwise fun p q => p.2 ≠ q.2 := by
      rw [← List.pairwise_map, List.zipIdx_map_snd]
      exact List.nodup_range'
    refine hplaces.imp ?_
    intro p q hne
    -- What is found in two elements differs in the place.
    simp only [Function.onFun, List.disjoint_left, List.mem_map]
    rintro x ⟨b, -, rfl⟩ ⟨c, -, h⟩
    exact hne (hgap _ _ _ _ h).1.symm

theorem numbered_eq (check : Nat → α → List Defect) (first : Nat) (as : List α) :
    numbered check first as = (as.zipIdx first).flatMap fun p => check p.2 p.1 := by
  induction as generalizing first with
  | nil => rfl
  | cons a as ih => rw [numbered, ih, List.zipIdx_cons, List.flatMap_cons]

/-- What is numbered from one is what is located from zero. -/
theorem numbered_one {number : Nat → β → Defect} (hgap : ∀ i b, (gap i b).defect = number (i + 1) b)
    (as : List α) :
    numbered (fun n a => (check a).map (number n)) 1 as =
      (located check gap as).map Gap.defect := by
  have hdefect : ∀ i, Gap.defect ∘ gap i = number (i + 1) := fun i => funext (hgap i)
  rw [numbered_eq, located, List.map_flatMap, List.zipIdx_succ, List.flatMap_map]
  simp [List.map_map, hdefect]

/-- Where the report does not say the place, what is found is reported element by element. -/
theorem map_defect_located {d : Defect} (hgap : ∀ i b, (gap i b).defect = d) (as : List α) :
    (located check gap as).map Gap.defect = as.flatMap fun a => (check a).map fun _ => d := by
  have hdefect : ∀ i, Gap.defect ∘ gap i = fun _ => d := fun i => funext (hgap i)
  have hzip : as.flatMap (fun a => (check a).map fun _ => d) =
      as.zipIdx.flatMap fun p => (check p.1).map fun _ => d := by
    conv_lhs => rw [← List.zipIdx_map_fst 0 as]
    rw [List.flatMap_map]
  rw [located, List.map_flatMap, hzip]
  simp [List.map_map, hdefect]

end Located

/-! ## All gaps -/

def unnamedRules (g : Graph) : List Gap :=
  located (fun r => if Text.isBlankText r.content.name then [()] else [])
    (fun i _ => .unnamedRule i) g.rules

def blankConditions (g : Graph) : List Gap :=
  located (fun c => ConditionField.all.filter fun f => Text.isBlankText (f.of c.content))
    .blankCondition g.conditions

def blankActions (g : Graph) : List Gap :=
  located (fun a => ActionField.all.filter fun f => Text.isBlankText (f.of a.content))
    .blankAction g.actions

/-- Everything that is missing, place by place. -/
def gaps (g : Graph) : List Gap :=
  [(if g.rules.isEmpty then [.noRule] else []),
    g.unnamedRules,
    (if g.conditions.isEmpty then [.noCondition] else []),
    (if g.actions.isEmpty then [.noAction] else []),
    g.blankConditions,
    g.blankActions,
    (if g.leadsTo (g.conditions.map (·.id)) then [] else [.noEdgeToCondition]),
    (if g.leadsTo (g.actions.map (·.id)) then [] else [.noEdgeToAction])].flatten

theorem mem_gaps {g : Graph} {x : Gap} : x ∈ g.gaps ↔ g.Lacks x := by
  have hconditions : ∀ f, f ∈ ConditionField.all := by intro f; cases f <;> decide
  have hactions : ∀ f, f ∈ ActionField.all := by intro f; cases f <;> decide
  cases x <;> simp [gaps, unnamedRules, blankConditions, blankActions, mem_located, Lacks, Leads,
    ← leadsTo_iff, hconditions, hactions]

theorem nodup_gaps (g : Graph) : g.gaps.Nodup := by
  unfold gaps
  rw [List.nodup_flatten]
  constructor
  · simp only [List.forall_mem_cons, List.not_mem_nil, false_implies, implies_true, and_true]
    refine ⟨?_, ?_, ?_, ?_, ?_, ?_, ?_, ?_⟩
    · split <;> simp
    · refine nodup_located ?_ (by simp)
      intro r
      split <;> simp
    · split <;> simp
    · split <;> simp
    · refine nodup_located ?_ (by simp)
      intro c
      exact List.Nodup.filter _ (by decide)
    · refine nodup_located ?_ (by simp)
      intro a
      exact List.Nodup.filter _ (by decide)
    · split <;> simp
    · split <;> simp
  · -- The places of different parts are of different kinds.
    simp only [List.pairwise_cons, List.forall_mem_cons, List.disjoint_left]
    refine ⟨?_, ?_, ?_, ?_, ?_, ?_, ?_, ?_⟩
    all_goals grind [mem_located, unnamedRules, blankConditions, blankActions]

/-- What is reported is what is missing, in the same order. -/
theorem defects_eq (g : Graph) : g.defects = g.gaps.map Gap.defect := by
  have hrules : (g.rules.filter fun r => Text.isBlankText r.content.name).map
      (fun _ => Defect.unnamedRule) = g.unnamedRules.map Gap.defect := by
    rw [unnamedRules, map_defect_located (d := .unnamedRule) (fun _ _ => rfl)]
    induction g.rules with
    | nil => rfl
    | cons r rules ih =>
      rw [List.filter_cons, List.flatMap_cons, ← ih]
      split <;> rfl
  have hconditions : numbered (fun n c => conditionDefects n c.content) 1 g.conditions =
      g.blankConditions.map Gap.defect :=
    numbered_one (fun _ _ => rfl) g.conditions
  have hactions : numbered (fun n a => actionDefects n a.content) 1 g.actions =
      g.blankActions.map Gap.defect :=
    numbered_one (fun _ _ => rfl) g.actions
  unfold defects gaps
  rw [hrules, hconditions, hactions]
  simp [apply_ite (List.map Gap.defect), Gap.defect]

end Graph

/-! ## Messages -/

/-- A message that counts can be taken apart again, because the number ends at the colon. -/
theorem number_and_label_eq {kind label label' : String} {m n : Nat} (hlabel : ':' ∉ label.toList)
    (h : kind ++ toString m ++ ": " ++ label ++ " is required" =
      kind ++ toString n ++ ": " ++ label' ++ " is required") : m = n ∧ label = label' := by
  have hdigits : ':' ∉ Nat.toDigits 10 m := by
    intro hmem
    exact absurd (Nat.isDigit_of_mem_toDigits (by decide) (by decide) hmem) (by decide)
  have hrest : ':' ∉ ' ' :: (label.toList ++ " is required".toList) := by
    simp [hlabel]
  have hcolon : ∀ s : List Char, ": ".toList ++ s = ':' :: ' ' :: s := fun s => rfl
  have hlists := congrArg String.toList h
  simp only [String.toList_append, Nat.toString_eq_repr, Nat.toList_repr, List.append_assoc,
    List.append_cancel_left_eq, hcolon] at hlists
  obtain ⟨hnumber, -, htail⟩ := (List.append_cons_inj_of_notMem hdigits hrest).mp hlists
  constructor
  · calc
      m = Nat.ofDigitChars 10 (Nat.toDigits 10 m) 0 := Nat.ofDigitChars_ten_toDigits.symm
      _ = Nat.ofDigitChars 10 (Nat.toDigits 10 n) 0 := by rw [hnumber]
      _ = n := Nat.ofDigitChars_ten_toDigits
  · exact String.toList_inj.mp (by simpa using htail)

theorem Defect.message_injective : Function.Injective Defect.message := by
  intro d e h
  cases d <;> cases e
  case blankCondition.blankCondition m part n part' =>
    have hcolon : ':' ∉ part.label.toList := by cases part <;> decide
    obtain ⟨rfl, hlabel⟩ := number_and_label_eq hcolon h
    cases part <;> cases part' <;> first | rfl | exact absurd hlabel (by decide)
  case blankAction.blankAction m part n part' =>
    have hcolon : ':' ∉ part.label.toList := by cases part <;> decide
    obtain ⟨rfl, hlabel⟩ := number_and_label_eq hcolon h
    cases part <;> cases part' <;> first | rfl | exact absurd hlabel (by decide)
  -- The messages of different kinds differ in their fixed beginnings.
  all_goals first | rfl | simp [Defect.message, ← String.toList_inj] at h

/-- Only of two rules without a name is the same reported. -/
theorem Gap.eq_or_unnamed {x y : Gap} (h : x.defect = y.defect) :
    x = y ∨ ∃ i j, x = .unnamedRule i ∧ y = .unnamedRule j := by
  cases x <;> cases y <;> simp_all [Gap.defect]

namespace Graph

/-! ## Order and repetition -/

/-- A graph without gaps stays one if its nodes are put in another order and nodes that were
connected still are. -/
theorem Complete.of_perm {g g' : Graph} (h : g.Complete) (hnodes : g'.nodes.Perm g.nodes)
    (hedges : ∀ source target, g.connects source target = true →
      g'.connects source target = true) : g'.Complete := by
  have hrules : g'.rules.Perm g.rules := hnodes.filterMap _
  have hconditions : g'.conditions.Perm g.conditions := hnodes.filterMap _
  have hactions : g'.actions.Perm g.actions := hnodes.filterMap _
  have hleads : ∀ {α : Type} {targets targets' : List (Placed α)}, targets'.Perm targets →
      g.Leads targets → g'.Leads targets' := by
    rintro α targets targets' hperm ⟨e, he, ⟨r, hr, hsource⟩, p, hp, htarget⟩
    obtain ⟨e', he', hsource', htarget'⟩ :=
      connects_iff.mp (hedges _ _ (connects_iff.mpr ⟨e, he, rfl, rfl⟩))
    exact ⟨e', he', ⟨r, hrules.mem_iff.mpr hr, hsource.trans hsource'.symm⟩, p,
      hperm.mem_iff.mpr hp, htarget.trans htarget'.symm⟩
  exact {
    hasRule := mt (fun heq => (heq ▸ hrules).nil_eq.symm) h.hasRule
    named := fun r hr => h.named r (hrules.mem_iff.mp hr)
    hasCondition := mt (fun heq => (heq ▸ hconditions).nil_eq.symm) h.hasCondition
    hasAction := mt (fun heq => (heq ▸ hactions).nil_eq.symm) h.hasAction
    conditionFilled := fun c hc => h.conditionFilled c (hconditions.mem_iff.mp hc)
    actionFilled := fun a ha => h.actionFilled a (hactions.mem_iff.mp ha)
    toCondition := hleads hconditions h.toCondition
    toAction := hleads hactions h.toAction }

theorem isValid_of_perm {g g' : Graph} (h : g.isValid = true) (hnodes : g'.nodes.Perm g.nodes)
    (hedges : ∀ source target, g.connects source target = true →
      g'.connects source target = true) : g'.isValid = true :=
  isValid_iff_complete.mpr ((isValid_iff_complete.mp h).of_perm hnodes hedges)

/-- **Every gap is reported once and nothing else is.** There is a list of the gaps without
repetition whose messages are the ones of the report, and messages tell gaps apart, except that of
rules without a name nobody learns which they are. A graph is valid if it has no gap. So it is if
its nodes are put in another order and its edges in another order or number, and further edges
leave it so. -/
theorem defects_reported (g : Graph) :
    (∃ gaps : List Gap, gaps.Nodup ∧ (∀ x, x ∈ gaps ↔ g.Lacks x) ∧
      g.defects.map Defect.message = gaps.map fun x => x.defect.message) ∧
    (∀ x y : Gap, x.defect.message = y.defect.message →
      x = y ∨ ∃ i j, x = .unnamedRule i ∧ y = .unnamedRule j) ∧
    (g.isValid = true ↔ ∀ x, ¬ g.Lacks x) ∧
    (∀ g' : Graph, g'.nodes.Perm g.nodes →
      (∀ source target, g'.connects source target = g.connects source target) →
      g'.isValid = g.isValid) ∧
    (∀ g' : Graph, g'.nodes.Perm g.nodes → (∀ e ∈ g.edges, e ∈ g'.edges) → g.isValid = true →
      g'.isValid = true) := by
  refine ⟨⟨g.gaps, g.nodup_gaps, fun x => mem_gaps, ?_⟩, ?_, ?_, ?_, ?_⟩
  · rw [defects_eq, List.map_map]
    rfl
  · intro x y h
    exact Gap.eq_or_unnamed (Defect.message_injective h)
  · rw [isValid, defects_eq, List.isEmpty_iff, List.map_eq_nil_iff,
      List.eq_nil_iff_forall_not_mem]
    simp only [mem_gaps]
  · intro g' hnodes hedges
    rw [Bool.eq_iff_iff]
    constructor
    · intro h
      exact isValid_of_perm h hnodes.symm fun s t hst => (hedges s t).symm.trans hst
    · intro h
      exact isValid_of_perm h hnodes fun s t hst => (hedges s t).trans hst
  · intro g' hnodes hedges h
    apply isValid_of_perm h hnodes
    intro s t hst
    obtain ⟨e, he, hends⟩ := connects_iff.mp hst
    exact connects_iff.mpr ⟨e, hedges e he, hends⟩

/-- A valid graph, the same one drawn the other way round with every edge twice, and rules without a
name. -/
theorem defects_reported_twoRules :
    let g := twoRules [⟨"first", "adult", none⟩, ⟨"second", "allow", none⟩]
    let g' : Graph := ⟨g.nodes.reverse, g.edges ++ g.edges.reverse⟩
    g'.nodes.Perm g.nodes ∧
      (∀ source target, g'.connects source target = g.connects source target) ∧
      (∀ e ∈ g.edges, e ∈ g'.edges) ∧ g.isValid = true ∧ g'.isValid = g.isValid ∧
      g'.isValid = true ∧ (∀ x, ¬ g.Lacks x) ∧
      (Gap.unnamedRule 0 = .unnamedRule 1 ∨
        ∃ i j, Gap.unnamedRule 0 = .unnamedRule i ∧ Gap.unnamedRule 1 = .unnamedRule j) := by
  intro g g'
  have hnodes : g'.nodes.Perm g.nodes := List.reverse_perm g.nodes
  have hedges : ∀ e ∈ g.edges, e ∈ g'.edges := fun e he => List.mem_append_left _ he
  have hconnects : ∀ source target, g'.connects source target = g.connects source target := by
    intro source target
    simp [connects, g', List.any_append, List.any_reverse]
  have hvalid : g.isValid = true := by decide
  obtain ⟨-, hmessages, hgaps, hsame, hfurther⟩ := defects_reported g
  exact ⟨hnodes, hconnects, hedges, hvalid, hsame g' hnodes hconnects,
    hfurther g' hnodes hedges hvalid, hgaps.mp hvalid, hmessages _ _ rfl⟩

end Graph

end Rulebook
