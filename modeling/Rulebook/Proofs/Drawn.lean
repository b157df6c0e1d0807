import Rulebook.Proofs.Display
import Rulebook.Proofs.Range

/-!
# The graph of a drawing

Fields of drawn nodes may hold values of any kind; the graph has their texts. So a drawing has a
graph exactly when these fields have texts (`Drawing.exists_toGraph_eq_ok`). The one field that is a
number, the priority of a rule, always can be written out.
-/

set_option autoImplicit false

namespace Rulebook

theorem Value.exists_fieldText_eq_ok {v : Value} :
    (∃ s, v.fieldText = .ok s) ↔ v.Displayable := by
  cases v with
  | null => simp [fieldText, Displayable, shownIntegers]
  | _ => exact exists_display_eq_ok _

namespace DrawnNode

/-- The fields of a node that count as their texts. -/
def textFields (n : DrawnNode) : List Value :=
  if n.type = ruleType then [n.field "name", n.field "description"]
  else if n.type = conditionType then [n.field "field", n.field "operator", n.field "value"]
  else if n.type = actionType then [n.field "type", n.field "target", n.field "value"]
  else []

theorem exists_toNode?_eq_ok {n : DrawnNode} :
    (∃ m, n.toNode? = .ok m) ↔ ∀ v ∈ n.textFields, v.Displayable := by
  unfold toNode? textFields
  split_ifs with hrule hcondition haction
  · rw [exists_bind_eq_ok_and fun _ => exists_bind_pure_eq_ok]
    simp [Value.exists_fieldText_eq_ok]
  · rw [exists_bind_eq_ok_and fun _ => exists_bind_eq_ok_and fun _ => exists_bind_pure_eq_ok]
    simp [Value.exists_fieldText_eq_ok]
  · rw [exists_bind_eq_ok_and fun _ => exists_bind_eq_ok_and fun _ => exists_bind_pure_eq_ok]
    simp [Value.exists_fieldText_eq_ok]
  · simp [pure, Except.pure]

/-- The rule in a node of the graph is made of the fields of a drawn rule node. -/
theorem rule_of_toNode? {n : DrawnNode} {m : Node} {r : Placed Rule}
    (h : n.toNode? = .ok (some m)) (hr : m.rule? = some r) :
    n.type = ruleType ∧ (n.field "name").fieldText = .ok r.content.name ∧
      (n.field "description").fieldText = .ok r.content.description ∧
      r.content.priority = (n.field "priority").priority := by
  unfold toNode? at h
  split_ifs at h with hrule hcondition haction
  · obtain ⟨name, hname, h⟩ := bind_eq_ok.mp h
    obtain ⟨description, hdescription, h⟩ := bind_eq_ok.mp h
    obtain rfl : _ = m := Option.some.inj (Except.ok.inj h)
    obtain rfl : _ = r := Option.some.inj hr
    exact ⟨hrule, hname, hdescription, rfl⟩
  · obtain ⟨field, -, h⟩ := bind_eq_ok.mp h
    obtain ⟨operator, -, h⟩ := bind_eq_ok.mp h
    obtain ⟨literal, -, h⟩ := bind_eq_ok.mp h
    obtain rfl : _ = m := Option.some.inj (Except.ok.inj h)
    simp [Node.rule?] at hr
  · obtain ⟨tag, -, h⟩ := bind_eq_ok.mp h
    obtain ⟨target, -, h⟩ := bind_eq_ok.mp h
    obtain ⟨literal, -, h⟩ := bind_eq_ok.mp h
    obtain rfl : _ = m := Option.some.inj (Except.ok.inj h)
    simp [Node.rule?] at hr
  · exact nomatch Except.ok.inj h

/-- A drawn rule node becomes a rule. -/
theorem exists_rule_of_type {n : DrawnNode} {o : Option Node} (h : n.toNode? = .ok o)
    (htype : n.type = ruleType) : ∃ m r, o = some m ∧ m.rule? = some r := by
  unfold toNode? at h
  rw [if_pos htype] at h
  obtain ⟨name, -, h⟩ := bind_eq_ok.mp h
  obtain ⟨description, -, h⟩ := bind_eq_ok.mp h
  exact ⟨_, _, (Except.ok.inj h).symm, rfl⟩

/-- The priority of a rule node is one that was given for it in the data. -/
theorem priority_lt_of_toNode? {n : DrawnNode} {m : Node} {r : Placed Rule}
    (h : n.toNode? = .ok (some m)) (hr : m.rule? = some r) :
    r.content.priority.natAbs < digitBound := by
  rw [(rule_of_toNode? h hr).2.2.2]
  exact Value.natAbs_priority_lt _

end DrawnNode

namespace Drawing

/-- **A drawing has a graph exactly when all fields that count as texts have one.** -/
theorem exists_toGraph_eq_ok {d : Drawing} :
    (∃ g, d.toGraph = .ok g) ↔ ∀ n ∈ d.nodes, ∀ v ∈ n.textFields, v.Displayable := by
  unfold toGraph
  rw [exists_bind_pure_eq_ok, exists_mapM_eq_ok]
  simp only [DrawnNode.exists_toNode?_eq_ok]

theorem toGraph_eq_error_iff {d : Drawing} :
    d.toGraph = .error .tooManyDigits ↔ ∃ n ∈ d.nodes, ∃ v ∈ n.textFields, ¬ v.Displayable := by
  have hfails : d.toGraph = .error .tooManyDigits ↔ ¬ ∃ g, d.toGraph = .ok g := by
    cases d.toGraph with
    | error e =>
      cases e
      simp
    | ok g => simp
  rw [hfails, exists_toGraph_eq_ok]
  simp only [not_forall, exists_prop]

theorem priority_lt_of_toGraph {d : Drawing} {g : Graph} {r : Placed Rule}
    (h : d.toGraph = .ok g) (hr : r ∈ g.rules) : r.content.priority.natAbs < digitBound := by
  obtain ⟨nodes, hnodes, hg⟩ := bind_eq_ok.mp h
  obtain rfl : _ = g := Except.ok.inj hg
  obtain ⟨m, hm, hrule⟩ := List.mem_filterMap.mp hr
  obtain ⟨m', hm', rfl⟩ := List.mem_filterMap.mp hm
  obtain ⟨n, -, hn⟩ := exists_of_mem_mapM hnodes hm'
  exact DrawnNode.priority_lt_of_toNode? hn hrule

/-- The first rule comes from the first node that is a rule's. -/
theorem exists_first_of_mapM {drawn : List DrawnNode} {nodes : List (Option Node)} {r : Placed Rule}
    (hnodes : drawn.mapM DrawnNode.toNode? = .ok nodes)
    (hr : ((nodes.filterMap id).filterMap Node.rule?).head? = some r) :
    ∃ n, drawn.find? (·.type == DrawnNode.ruleType) = some n ∧
      (n.field "name").fieldText = .ok r.content.name ∧
      (n.field "description").fieldText = .ok r.content.description := by
  induction drawn generalizing nodes with
  | nil =>
    obtain rfl : [] = nodes := Except.ok.inj hnodes
    exact nomatch hr
  | cons n drawn ih =>
    rw [List.mapM_cons] at hnodes
    obtain ⟨o, ho, hrest⟩ := bind_eq_ok.mp hnodes
    obtain ⟨os, hos, hcons⟩ := bind_eq_ok.mp hrest
    obtain rfl : o :: os = nodes := Except.ok.inj hcons
    by_cases htype : n.type = DrawnNode.ruleType
    · obtain ⟨m, first, rfl, hfirst⟩ := DrawnNode.exists_rule_of_type ho htype
      have hsame : first = r := by simpa [hfirst] using hr
      obtain ⟨-, hname, hdescription, -⟩ := DrawnNode.rule_of_toNode? ho hfirst
      exact ⟨n, by simp [htype], hsame ▸ hname, hsame ▸ hdescription⟩
    · -- A node of another type is no rule, and the search goes on.
      have hnone : (o.bind Node.rule?) = none := by
        cases o with
        | none => rfl
        | some m =>
          by_contra hsome
          obtain ⟨x, hx⟩ := Option.ne_none_iff_exists'.mp hsome
          exact htype (DrawnNode.rule_of_toNode? ho hx).1
      have hskip : ((os.filterMap id).filterMap Node.rule?).head? = some r := by
        cases o with
        | none => simpa using hr
        | some m => simpa [show m.rule? = none from hnone] using hr
      obtain ⟨first, hfirst, htexts⟩ := ih hos hskip
      exact ⟨first, by simp [htype, hfirst], htexts⟩

/-- **The first rule of a graph is the first rule node of its drawing.** -/
theorem exists_first_of_rules {d : Drawing} {g : Graph} {r : Placed Rule} (h : d.toGraph = .ok g)
    (hr : g.rules.head? = some r) :
    ∃ n, d.nodes.find? (·.type == DrawnNode.ruleType) = some n ∧
      (n.field "name").fieldText = .ok r.content.name ∧
      (n.field "description").fieldText = .ok r.content.description := by
  obtain ⟨nodes, hnodes, hg⟩ := bind_eq_ok.mp h
  obtain rfl : _ = g := Except.ok.inj hg
  exact exists_first_of_mapM hnodes hr

end Drawing

end Rulebook
