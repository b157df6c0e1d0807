import Rulebook.Graph.Basic

/-!
# Linking

Which conditions and actions belong to a graph's rule. The first rule node counts, and what belongs
to it is what its outgoing edges lead to, in the order of the nodes. Edges that lead nowhere, and
nodes that no edge of the rule leads to, play no part.
-/

set_option autoImplicit false

namespace Rulebook

/-- A rule with its conditions and actions. -/
structure LinkedRule where
  rule : Placed Rule
  conditions : List (Placed Condition)
  actions : List (Placed Action)
deriving DecidableEq

namespace Graph

/-- Whether an edge leads from one node to another. -/
def connects (g : Graph) (source target : String) : Bool :=
  g.edges.any fun e => e.source == source && e.target == target

/-- The first rule of a graph with what belongs to it; without a rule node there is none. -/
def link (g : Graph) : Option LinkedRule :=
  g.rules.head?.map fun rule =>
    { rule
      conditions := g.conditions.filter fun c => g.connects rule.id c.id
      actions := g.actions.filter fun a => g.connects rule.id a.id }

end Graph

end Rulebook
