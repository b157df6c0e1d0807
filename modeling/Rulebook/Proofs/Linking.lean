import Rulebook.Graph.Validation
import Rulebook.Simulation

/-!
# What validation promises to linking

Validation looks at the nodes by kind and asks of the edges only whether *some* rule leads to some
condition and to some action. Linking follows the edges of the *first* rule. `isValid_iff_complete`
says what an empty list of defects means, part by part; the rest of the file is what of it carries
over to the linked rule.

All that concerns single nodes carries over: a linked rule of a valid graph is named and has no
blank field. Connectivity carries over only as far as it is about the first rule. With one rule
node that is everything; with several, a later rule can hold the edges that validation counted, and
then the linked rule is empty (`not_valid_links_nonempty`).
-/

set_option autoImplicit false

namespace Rulebook

namespace Graph

/-- What a graph without defects has: everything is there, filled in and connected. -/
structure Complete (g : Graph) : Prop where
  hasRule : g.rules ≠ []
  named : ∀ r ∈ g.rules, Text.isBlankText r.content.name = false
  hasCondition : g.conditions ≠ []
  hasAction : g.actions ≠ []
  conditionFilled : ∀ c ∈ g.conditions, ∀ f : ConditionField,
    Text.isBlankText (f.of c.content) = false
  actionFilled : ∀ a ∈ g.actions, ∀ f : ActionField, Text.isBlankText (f.of a.content) = false
  toCondition : ∃ e ∈ g.edges, (∃ r ∈ g.rules, r.id = e.source) ∧
    ∃ c ∈ g.conditions, c.id = e.target
  toAction : ∃ e ∈ g.edges, (∃ r ∈ g.rules, r.id = e.source) ∧ ∃ a ∈ g.actions, a.id = e.target

/-! ## Defects, part by part -/

theorem conditionDefects_eq_nil {n : Nat} {c : Condition} :
    conditionDefects n c = [] ↔ ∀ f : ConditionField, Text.isBlankText (f.of c) = false := by
  unfold conditionDefects
  rw [List.map_eq_nil_iff, List.filter_eq_nil_iff]
  constructor
  · intro h f
    have hf : f ∈ ConditionField.all := by cases f <;> decide
    simpa using h f hf
  · intro h f _
    simp [h f]

theorem actionDefects_eq_nil {n : Nat} {a : Action} :
    actionDefects n a = [] ↔ ∀ f : ActionField, Text.isBlankText (f.of a) = false := by
  unfold actionDefects
  rw [List.map_eq_nil_iff, List.filter_eq_nil_iff]
  constructor
  · intro h f
    have hf : f ∈ ActionField.all := by cases f <;> decide
    simpa using h f hf
  · intro h f _
    simp [h f]

/-- A check finds nothing in a list exactly when it finds nothing in any element, for a check whose
verdict does not depend on the number. -/
theorem numbered_eq_nil {α : Type} (check : Nat → α → List Defect) (Fine : α → Prop)
    (hcheck : ∀ n a, check n a = [] ↔ Fine a) :
    ∀ (n : Nat) (as : List α), numbered check n as = [] ↔ ∀ a ∈ as, Fine a
  | _, [] => by simp [numbered]
  | n, a :: as => by
    rw [numbered, List.append_eq_nil_iff, hcheck, numbered_eq_nil check Fine hcheck,
      List.forall_mem_cons]

/-- An edge from some rule to some of the given nodes. -/
theorem leadsTo_iff {g : Graph} {α : Type} {placed : List (Placed α)} :
    g.leadsTo (placed.map (·.id)) = true ↔
      ∃ e ∈ g.edges, (∃ r ∈ g.rules, r.id = e.source) ∧ ∃ p ∈ placed, p.id = e.target := by
  simp [leadsTo]

/-- **Nothing is missing exactly when all is there.** The defects are a list of eight parts, and
each part is empty under one condition of its own. -/
theorem isValid_iff_complete {g : Graph} : g.isValid = true ↔ g.Complete := by
  -- The two parts that go through a list with numbers; the other six only need rewriting.
  have hconditions : numbered (fun n c => conditionDefects n c.content) 1 g.conditions = [] ↔
      ∀ c ∈ g.conditions, ∀ f : ConditionField, Text.isBlankText (f.of c.content) = false := by
    apply numbered_eq_nil (fun n (c : Placed Condition) => conditionDefects n c.content)
      fun c => ∀ f : ConditionField, Text.isBlankText (f.of c.content) = false
    intro n c
    exact conditionDefects_eq_nil
  have hactions : numbered (fun n a => actionDefects n a.content) 1 g.actions = [] ↔
      ∀ a ∈ g.actions, ∀ f : ActionField, Text.isBlankText (f.of a.content) = false := by
    apply numbered_eq_nil (fun n (a : Placed Action) => actionDefects n a.content)
      fun a => ∀ f : ActionField, Text.isBlankText (f.of a.content) = false
    intro n a
    exact actionDefects_eq_nil
  unfold isValid defects
  simp only [List.isEmpty_iff, List.append_eq_nil_iff, List.map_eq_nil_iff,
    List.filter_eq_nil_iff, hconditions, hactions, ite_eq_left_iff, ite_eq_right_iff,
    List.cons_ne_nil, imp_false, Bool.not_eq_true, Classical.not_not, leadsTo_iff]
  constructor
  · rintro ⟨⟨⟨⟨⟨⟨⟨h1, h2⟩, h3⟩, h4⟩, h5⟩, h6⟩, h7⟩, h8⟩
    exact ⟨h1, h2, h3, h4, h5, h6, h7, h8⟩
  · rintro ⟨h1, h2, h3, h4, h5, h6, h7, h8⟩
    exact ⟨⟨⟨⟨⟨⟨⟨h1, h2⟩, h3⟩, h4⟩, h5⟩, h6⟩, h7⟩, h8⟩

/-! ## The linked rule -/

theorem connects_iff {g : Graph} {source target : String} :
    g.connects source target = true ↔ ∃ e ∈ g.edges, e.source = source ∧ e.target = target := by
  simp [connects]

/-- What is linked is what was drawn: the first rule, and those conditions and actions that an edge
of it leads to. -/
theorem link_eq_some {g : Graph} {r : LinkedRule} (h : g.link = some r) :
    g.rules.head? = some r.rule ∧
      r.conditions = g.conditions.filter (fun c => g.connects r.rule.id c.id) ∧
      r.actions = g.actions.filter (fun a => g.connects r.rule.id a.id) := by
  obtain ⟨rule, hrule, rfl⟩ := Option.map_eq_some_iff.mp h
  exact ⟨hrule, rfl, rfl⟩

/-- Some of the given nodes is linked exactly when an edge of the rule leads to one of them. -/
theorem filter_connects_ne_nil {g : Graph} {α : Type} {source : String} {placed : List (Placed α)} :
    placed.filter (fun p => g.connects source p.id) ≠ [] ↔
      ∃ e ∈ g.edges, e.source = source ∧ ∃ p ∈ placed, p.id = e.target := by
  constructor
  · intro h
    obtain ⟨p, hp⟩ := List.exists_mem_of_ne_nil _ h
    obtain ⟨hp, hedge⟩ := List.mem_filter.mp hp
    obtain ⟨e, he, hsource, htarget⟩ := connects_iff.mp hedge
    exact ⟨e, he, hsource, p, hp, htarget.symm⟩
  · rintro ⟨e, he, hsource, p, hp, htarget⟩
    have hedge := connects_iff.mpr ⟨e, he, hsource, htarget.symm⟩
    exact List.ne_nil_of_mem (List.mem_filter.mpr ⟨hp, hedge⟩)

/-- **What validation guarantees of linking.** A valid graph links to its first rule, which has a
name, and nothing in the linked rule is blank. It has a condition exactly when an edge runs from the
first rule to a condition, and an action exactly when one runs from it to an action; so it has both
whenever all rule nodes go by the first one's id, in particular when there is only one. -/
theorem valid_graph_links {g : Graph} (h : g.isValid = true) :
    ∃ r, g.link = some r ∧ g.rules.head? = some r.rule ∧
      Text.isBlankText r.rule.content.name = false ∧
      (∀ c ∈ r.conditions, ∀ f : ConditionField, Text.isBlankText (f.of c.content) = false) ∧
      (∀ a ∈ r.actions, ∀ f : ActionField, Text.isBlankText (f.of a.content) = false) ∧
      (r.conditions ≠ [] ↔
        ∃ e ∈ g.edges, e.source = r.rule.id ∧ ∃ c ∈ g.conditions, c.id = e.target) ∧
      (r.actions ≠ [] ↔
        ∃ e ∈ g.edges, e.source = r.rule.id ∧ ∃ a ∈ g.actions, a.id = e.target) ∧
      ((∀ other ∈ g.rules, other.id = r.rule.id) → r.conditions ≠ [] ∧ r.actions ≠ []) := by
  have hcomplete := isValid_iff_complete.mp h
  obtain ⟨rule, hrule⟩ := Option.ne_none_iff_exists'.mp
    (mt List.head?_eq_none_iff.mp hcomplete.hasRule)
  have hlink : g.link = some ⟨rule, g.conditions.filter fun c => g.connects rule.id c.id,
      g.actions.filter fun a => g.connects rule.id a.id⟩ := by
    simp [link, hrule]
  refine ⟨_, hlink, hrule, ?_, ?_, ?_, ?_, ?_, ?_⟩
  · exact hcomplete.named rule (List.mem_of_head? hrule)
  · intro c hc
    exact hcomplete.conditionFilled c (List.mem_filter.mp hc).1
  · intro a ha
    exact hcomplete.actionFilled a (List.mem_filter.mp ha).1
  · exact filter_connects_ne_nil
  · exact filter_connects_ne_nil
  · intro hsingle
    -- Whichever rule holds the edges that were counted, it goes by the first one's id.
    obtain ⟨e, he, ⟨x, hx, hxe⟩, hc⟩ := hcomplete.toCondition
    obtain ⟨e', he', ⟨x', hx', hxe'⟩, ha⟩ := hcomplete.toAction
    refine ⟨filter_connects_ne_nil.mpr ⟨e, he, ?_, hc⟩,
      filter_connects_ne_nil.mpr ⟨e', he', ?_, ha⟩⟩
    · rw [← hxe, hsingle x hx]
    · rw [← hxe', hsingle x' hx']

/-- Two rules, one condition and one action, with the given edges. -/
def twoRules (edges : List Edge) : Graph where
  nodes := [⟨"first", .rule ⟨"First", "", 1⟩⟩, ⟨"second", .rule ⟨"Second", "", 1⟩⟩,
    ⟨"adult", .condition ⟨"customer.age", ">=", "18"⟩⟩,
    ⟨"allow", .action ⟨"setProperty", "customer.eligible", "true"⟩⟩]
  edges := edges

/-- The parts need not come together: the first rule leads to the condition, the second to the
action, and what is linked has a condition and nothing to do. -/
theorem split_rules_link :
    let g := twoRules [⟨"first", "adult", none⟩, ⟨"second", "allow", none⟩]
    g.isValid = true ∧ ∃ r, g.link = some r ∧ r.conditions ≠ [] ∧ r.actions = [] := by
  intro g
  have hvalid : g.isValid = true := by decide
  obtain ⟨r, hlink, hrule, -, -, -, hconditions, hactions, -⟩ := valid_graph_links hvalid
  have hfirst : g.rules.head?.map (·.id) = some "first" := by decide
  rw [hrule] at hfirst
  have hid : r.rule.id = "first" := Option.some.inj hfirst
  rw [hid] at hconditions hactions
  exact ⟨hvalid, r, hlink, hconditions.mpr (by decide),
    Classical.not_not.mp (mt hactions.mp (by decide))⟩

/-- **Validation is no gate for the first rule.** When the second rule holds both edges the graph is
valid, and what is linked has neither a condition nor an action: it fires on every input and leaves
it as it was. -/
theorem not_valid_links_nonempty :
    let g := twoRules [⟨"second", "adult", none⟩, ⟨"second", "allow", none⟩]
    g.isValid = true ∧
      (∀ input, ∃ o, Simulation.run g.link input = .ok o ∧ o.success = true ∧ o.output = input) ∧
      ¬ ∀ g : Graph, g.isValid = true →
        ∃ r, g.link = some r ∧ r.conditions ≠ [] ∧ r.actions ≠ [] := by
  intro g
  have hvalid : g.isValid = true := by decide
  have hlink : g.link = some ⟨⟨"first", ⟨"First", "", 1⟩⟩, [], []⟩ := by decide
  refine ⟨hvalid, ?_, ?_⟩
  · intro input
    rw [hlink]
    exact ⟨_, rfl, rfl, rfl⟩
  · intro hgate
    obtain ⟨r, hr, hconditions, -⟩ := hgate g hvalid
    rw [hlink] at hr
    cases hr
    exact hconditions rfl

end Graph

end Rulebook
