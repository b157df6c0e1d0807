import Mathlib.Logic.Relation
import Rulebook.Drl
import Rulebook.Proofs.Linking

/-!
# The neighbourhood of the first rule

Of a graph only the first rule counts, with the conditions and actions that its edges lead to, in
the order of the nodes. `Graph.Edit` lists what can be done to a graph outside this neighbourhood or
to the list of edges as such; none of it, and no sequence of it, changes what the graph links to, so
nothing of it is seen in the rule source or in a run. Conversely the neighbourhood is all that is
needed: the graph of nothing but a linked rule links to it (`LinkedRule.link_graph`).
-/

set_option autoImplicit false

namespace Rulebook

namespace Node

variable {n : Node}

theorem rule?_id {r : Placed Rule} (h : n.rule? = some r) : r.id = n.id := by
  unfold rule? at h
  split at h
  · exact (Option.some.inj h) ▸ rfl
  · exact nomatch h

theorem condition?_id {c : Placed Condition} (h : n.condition? = some c) : c.id = n.id := by
  unfold condition? at h
  split at h
  · exact (Option.some.inj h) ▸ rfl
  · exact nomatch h

theorem action?_id {a : Placed Action} (h : n.action? = some a) : a.id = n.id := by
  unfold action? at h
  split at h
  · exact (Option.some.inj h) ▸ rfl
  · exact nomatch h

/-- A rule node is neither a condition nor an action. -/
theorem condition?_of_rule? (h : n.rule? ≠ none) : n.condition? = none := by
  unfold rule? at h
  unfold condition?
  split at h
  · next hcontent => rw [hcontent]
  · exact absurd rfl h

theorem action?_of_rule? (h : n.rule? ≠ none) : n.action? = none := by
  unfold rule? at h
  unfold action?
  split at h
  · next hcontent => rw [hcontent]
  · exact absurd rfl h

end Node

namespace Graph

/-! ## What linking looks at -/

/-- An edge that leads from the first rule to a condition or an action. -/
def Uses (g : Graph) (e : Edge) : Prop :=
  ∃ r ∈ g.rules.head?, e.source = r.id ∧
    (e.target ∈ g.conditions.map (·.id) ∨ e.target ∈ g.actions.map (·.id))

instance (g : Graph) (e : Edge) : Decidable (g.Uses e) :=
  inferInstanceAs (Decidable (∃ r ∈ g.rules.head?, _))

/-- Graphs with the same first rule that leads to the same conditions and actions link to the same.
-/
theorem link_congr {g g' : Graph} (hrule : g'.rules.head? = g.rules.head?)
    (hconditions : ∀ r ∈ g.rules.head?,
      g'.conditions.filter (fun c => g'.connects r.id c.id) =
        g.conditions.filter (fun c => g.connects r.id c.id))
    (hactions : ∀ r ∈ g.rules.head?,
      g'.actions.filter (fun a => g'.connects r.id a.id) =
        g.actions.filter (fun a => g.connects r.id a.id)) : g'.link = g.link := by
  unfold link
  rw [hrule]
  cases hfirst : g.rules.head? with
  | none => rfl
  | some r => simp [hconditions r hfirst, hactions r hfirst]

/-- Of the edges only those count that a graph uses. -/
theorem link_of_connects {nodes : List Node} {edges edges' : List Edge}
    (h : ∀ e, (mk nodes edges).Uses e →
      (mk nodes edges').connects e.source e.target = (mk nodes edges).connects e.source e.target) :
    (mk nodes edges').link = (mk nodes edges).link := by
  refine link_congr rfl ?_ ?_
  · intro r hr
    refine List.filter_congr fun c hc => ?_
    exact h ⟨r.id, c.id, none⟩ ⟨r, hr, rfl, .inl (List.mem_map_of_mem hc)⟩
  · intro r hr
    refine List.filter_congr fun a ha => ?_
    exact h ⟨r.id, a.id, none⟩ ⟨r, hr, rfl, .inr (List.mem_map_of_mem ha)⟩

/-- One more edge connects what it leads from and to. -/
theorem connects_insert (nodes : List Node) (before after : List Edge) (e : Edge)
    (source target : String) :
    (mk nodes (before ++ e :: after)).connects source target =
      ((e.source == source && e.target == target) ||
        (mk nodes (before ++ after)).connects source target) := by
  simp only [connects, List.any_append, List.any_cons]
  exact Bool.or_left_comm _ _ _

/-- An edge that is not used makes no difference. -/
theorem link_insert_edge {nodes : List Node} {before after : List Edge} {e : Edge}
    (h : ¬ (mk nodes (before ++ after)).Uses e) :
    (mk nodes (before ++ e :: after)).link = (mk nodes (before ++ after)).link := by
  apply link_of_connects
  intro used hused
  have hother : (e.source == used.source && e.target == used.target) = false := by
    rw [Bool.eq_false_iff]
    intro hsame
    obtain ⟨hsource, htarget⟩ := Bool.and_eq_true_iff.mp hsame
    apply h
    unfold Uses
    rw [beq_iff_eq.mp hsource, beq_iff_eq.mp htarget]
    exact hused
  rw [connects_insert, hother, Bool.false_or]

/-- A node more among nodes does not show where it does not pass. -/
theorem filter_filterMap_insert {α β : Type} (f : α → Option β) (p : β → Bool) {a : α}
    (h : ∀ b, f a = some b → p b = false) (before after : List α) :
    ((before ++ a :: after).filterMap f).filter p = ((before ++ after).filterMap f).filter p := by
  rw [List.filterMap_append, List.filterMap_append, List.filterMap_cons, List.filter_append,
    List.filter_append]
  cases hb : f a with
  | none => rfl
  | some b => rw [List.filter_cons, h b hb, if_neg Bool.false_ne_true]

/-! ## Edits -/

/-- An edit that leaves the neighbourhood of the first rule alone. -/
inductive Edit : Graph → Graph → Prop
  /-- The edges in another order. -/
  | reorder {nodes : List Node} {edges edges' : List Edge} (same : edges.Perm edges') :
    Edit ⟨nodes, edges⟩ ⟨nodes, edges'⟩
  /-- An edge a second time. -/
  | double {nodes : List Node} {before after : List Edge} {e : Edge} (there : e ∈ before ++ after) :
    Edit ⟨nodes, before ++ after⟩ ⟨nodes, before ++ e :: after⟩
  /-- Another id for an edge, or none. -/
  | rename {nodes : List Node} {before after : List Edge} {e : Edge} (id : Option String) :
    Edit ⟨nodes, before ++ e :: after⟩ ⟨nodes, before ++ { e with id } :: after⟩
  /-- An edge more, from elsewhere than the first rule or to no condition or action. -/
  | draw {nodes : List Node} {before after : List Edge} {e : Edge}
    (unused : ¬ (mk nodes (before ++ after)).Uses e) :
    Edit ⟨nodes, before ++ after⟩ ⟨nodes, before ++ e :: after⟩
  /-- Such an edge less. -/
  | erase {nodes : List Node} {before after : List Edge} {e : Edge}
    (unused : ¬ (mk nodes (before ++ e :: after)).Uses e) :
    Edit ⟨nodes, before ++ e :: after⟩ ⟨nodes, before ++ after⟩
  /-- A condition or an action more, to which no edge of the first rule leads. -/
  | insert {before after : List Node} {edges : List Edge} {n : Node} (kind : n.rule? = none)
    (untouched : ∀ r ∈ (mk (before ++ after) edges).rules.head?,
      ∀ e ∈ edges, e.source = r.id → e.target ≠ n.id) :
    Edit ⟨before ++ after, edges⟩ ⟨before ++ n :: after, edges⟩
  /-- A rule more, behind another one. -/
  | insertRule {before after : List Node} {edges : List Edge} {n : Node} (kind : n.rule? ≠ none)
    (later : ∃ m ∈ before, m.rule? ≠ none) :
    Edit ⟨before ++ after, edges⟩ ⟨before ++ n :: after, edges⟩

/-- A condition or an action that no edge of the first rule leads to makes no difference. -/
theorem link_insert_node {before after : List Node} {edges : List Edge} {n : Node}
    (hkind : n.rule? = none)
    (huntouched : ∀ r ∈ (mk (before ++ after) edges).rules.head?,
      ∀ e ∈ edges, e.source = r.id → e.target ≠ n.id) :
    (mk (before ++ n :: after) edges).link = (mk (before ++ after) edges).link := by
  have hfree : ∀ r ∈ (mk (before ++ after) edges).rules.head?,
      (mk (before ++ after) edges).connects r.id n.id = false := by
    intro r hr
    rw [Bool.eq_false_iff]
    intro hconnected
    obtain ⟨e, he, hsource, htarget⟩ := connects_iff.mp hconnected
    exact huntouched r hr e he hsource htarget
  refine link_congr ?_ ?_ ?_
  · unfold rules
    rw [List.filterMap_append, List.filterMap_append, List.filterMap_cons, hkind]
  · intro r hr
    refine filter_filterMap_insert Node.condition? _ ?_ before after
    intro c hc
    rw [Node.condition?_id hc]
    exact hfree r hr
  · intro r hr
    refine filter_filterMap_insert Node.action? _ ?_ before after
    intro a ha
    rw [Node.action?_id ha]
    exact hfree r hr

/-- A rule behind another one makes no difference. -/
theorem link_insert_rule {before after : List Node} {edges : List Edge} {n : Node}
    (hkind : n.rule? ≠ none) (hlater : ∃ m ∈ before, m.rule? ≠ none) :
    (mk (before ++ n :: after) edges).link = (mk (before ++ after) edges).link := by
  have hbefore : before.filterMap Node.rule? ≠ [] := by
    obtain ⟨m, hm, hrule⟩ := hlater
    obtain ⟨r, hr⟩ := Option.ne_none_iff_exists'.mp hrule
    exact List.ne_nil_of_mem (List.mem_filterMap.mpr ⟨m, hm, hr⟩)
  refine link_congr ?_ ?_ ?_
  · obtain ⟨first, rest, hcons⟩ := List.exists_cons_of_ne_nil hbefore
    unfold rules
    rw [List.filterMap_append, List.filterMap_append, hcons]
    rfl
  · intro r _
    refine filter_filterMap_insert Node.condition? _ ?_ before after
    rw [Node.condition?_of_rule? hkind]
    exact nofun
  · intro r _
    refine filter_filterMap_insert Node.action? _ ?_ before after
    rw [Node.action?_of_rule? hkind]
    exact nofun

/-- **A step.** No edit changes what a graph links to. -/
theorem Edit.link_eq {g g' : Graph} (h : Edit g g') : g'.link = g.link := by
  cases h with
  | reorder same =>
    apply link_of_connects
    intro e _
    exact same.symm.any_eq
  | double there =>
    apply link_of_connects
    intro used _
    rw [connects_insert]
    -- Where the edge itself connects, its first copy does.
    rw [Bool.or_eq_right_iff_imp]
    intro hsame
    obtain ⟨hsource, htarget⟩ := Bool.and_eq_true_iff.mp hsame
    exact connects_iff.mpr ⟨_, there, beq_iff_eq.mp hsource, beq_iff_eq.mp htarget⟩
  | rename id =>
    apply link_of_connects
    intro used _
    rw [connects_insert, connects_insert]
  | draw unused => exact link_insert_edge unused
  | @erase nodes before after e unused =>
    have hunused : ¬ (mk nodes (before ++ after)).Uses e := unused
    exact (link_insert_edge hunused).symm
  | insert kind untouched => exact link_insert_node kind untouched
  | insertRule kind later => exact link_insert_rule kind later

/-- No sequence of edits does. -/
theorem link_of_edits {g g' : Graph} (h : Relation.ReflTransGen Edit g g') : g'.link = g.link := by
  induction h with
  | refl => rfl
  | tail _ hedit ih => exact hedit.link_eq.trans ih

end Graph

/-! ## The graph of a linked rule -/

namespace LinkedRule

/-- A graph of nothing but a linked rule, with one edge from the rule to each of the others. -/
def graph (r : LinkedRule) : Graph where
  nodes := ⟨r.rule.id, .rule r.rule.content⟩ ::
    (r.conditions.map (fun c => ⟨c.id, .condition c.content⟩) ++
      r.actions.map fun a => ⟨a.id, .action a.content⟩)
  edges := (r.conditions.map (·.id) ++ r.actions.map (·.id)).map fun target =>
    ⟨r.rule.id, target, none⟩

theorem graph_rules (r : LinkedRule) : r.graph.rules = [r.rule] := by
  simp [graph, Graph.rules, Node.rule?, List.filterMap_map, Function.comp_def]

theorem graph_conditions (r : LinkedRule) : r.graph.conditions = r.conditions := by
  simp [graph, Graph.conditions, List.filterMap_cons, Node.condition?, List.filterMap_map,
    Function.comp_def]

theorem graph_actions (r : LinkedRule) : r.graph.actions = r.actions := by
  simp [graph, Graph.actions, List.filterMap_cons, Node.action?, List.filterMap_map,
    Function.comp_def]

theorem graph_connects {r : LinkedRule} {target : String}
    (h : target ∈ r.conditions.map (·.id) ++ r.actions.map (·.id)) :
    r.graph.connects r.rule.id target = true :=
  Graph.connects_iff.mpr ⟨⟨r.rule.id, target, none⟩, List.mem_map_of_mem h, rfl, rfl⟩

/-- **The neighbourhood is enough.** The graph of a linked rule links to it. -/
theorem link_graph (r : LinkedRule) : r.graph.link = some r := by
  unfold Graph.link
  rw [graph_rules, graph_conditions, graph_actions]
  have hconditions : r.conditions.filter (fun c => r.graph.connects r.rule.id c.id) =
      r.conditions := by
    rw [List.filter_eq_self]
    intro c hc
    exact graph_connects (List.mem_append_left _ (List.mem_map_of_mem hc))
  have hactions : r.actions.filter (fun a => r.graph.connects r.rule.id a.id) = r.actions := by
    rw [List.filter_eq_self]
    intro a ha
    exact graph_connects (List.mem_append_right _ (List.mem_map_of_mem ha))
  simp [hconditions, hactions]

end LinkedRule

namespace Graph

/-- **Only the neighbourhood of the first rule matters.** However a graph is edited outside of it,
it links to the same rule, so that its source is the same and so is its run on every input. And the
graph of nothing but a linked rule links to this rule. -/
theorem edits_keep_link {g g' : Graph} (h : Relation.ReflTransGen Edit g g') :
    g'.link = g.link ∧ Drl.generate g'.link = Drl.generate g.link ∧
      (∀ input, Simulation.run g'.link input = Simulation.run g.link input) ∧
      ∀ r : LinkedRule, r.graph.link = some r := by
  have hlink := link_of_edits h
  refine ⟨hlink, ?_, ?_, LinkedRule.link_graph⟩
  · rw [hlink]
  · intro input
    rw [hlink]

/-- A graph with two rules is edited: the edge to the condition is doubled and the copy gets an id,
edges from the rule to itself and from the other rule to the condition are drawn, a condition with
the id of the other rule is put between the rules, and the edges are turned round. -/
theorem edits_keep_link_turned :
    let toAdult : Edge := ⟨"first", "adult", none⟩
    let toAllow : Edge := ⟨"first", "allow", none⟩
    let g := twoRules [toAdult, toAllow]
    let g' : Graph :=
      ⟨[⟨"first", .rule ⟨"First", "", 1⟩⟩, ⟨"second", .condition ⟨"order.amount", ">", "5"⟩⟩,
        ⟨"second", .rule ⟨"Second", "", 1⟩⟩, ⟨"adult", .condition ⟨"customer.age", ">=", "18"⟩⟩,
        ⟨"allow", .action ⟨"setProperty", "customer.eligible", "true"⟩⟩],
        [⟨"second", "adult", none⟩, ⟨"first", "first", none⟩, toAllow, toAdult,
          { toAdult with id := some "copy" }]⟩
    Relation.ReflTransGen Edit g g' ∧ g'.link = g.link ∧ g.link ≠ none := by
  intro toAdult toAllow g g'
  let copy : Edge := { toAdult with id := some "copy" }
  let toItself : Edge := ⟨"first", "first", none⟩
  let fromOther : Edge := ⟨"second", "adult", none⟩
  have hdouble : Edit g (twoRules [toAdult, toAdult, toAllow]) :=
    @Edit.double g.nodes [] [toAdult, toAllow] toAdult (by decide)
  have hrename : Edit (twoRules [toAdult, toAdult, toAllow]) (twoRules [copy, toAdult, toAllow]) :=
    @Edit.rename g.nodes [] [toAdult, toAllow] toAdult (some "copy")
  have hitself : Edit (twoRules [copy, toAdult, toAllow])
      (twoRules [copy, toAdult, toAllow, toItself]) :=
    @Edit.draw g.nodes [copy, toAdult, toAllow] [] toItself (by decide)
  have hother : Edit (twoRules [copy, toAdult, toAllow, toItself])
      (twoRules [copy, toAdult, toAllow, toItself, fromOther]) :=
    @Edit.draw g.nodes [copy, toAdult, toAllow, toItself] [] fromOther (by decide)
  have hinsert : Edit (twoRules [copy, toAdult, toAllow, toItself, fromOther])
      ⟨g'.nodes, [copy, toAdult, toAllow, toItself, fromOther]⟩ :=
    @Edit.insert (g.nodes.take 1) (g.nodes.drop 1) _
      ⟨"second", .condition ⟨"order.amount", ">", "5"⟩⟩ rfl (by decide)
  have hturn : Edit ⟨g'.nodes, [copy, toAdult, toAllow, toItself, fromOther]⟩ g' :=
    .reorder (List.reverse_perm _).symm
  have hedits : Relation.ReflTransGen Edit g g' :=
    .tail (.tail (.tail (.tail (.tail (.single hdouble) hrename) hitself) hother) hinsert) hturn
  exact ⟨hedits, (edits_keep_link hedits).1, by decide⟩

end Graph

end Rulebook
