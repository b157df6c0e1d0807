import Rulebook.Proofs.Drawn
import Rulebook.Service.Handler

/-!
# Drawings that are kept

The store keeps the nodes and edges of a drawing as trees. Reading them again gives the drawing back
up to what edges hold as null, and that plays no part in the graph: a kept drawing has the graph of
the drawing that was sent (`Drawing.ofMembers_kept`, `Drawing.toGraph_pruned`). It rests on what
reading leaves among the extras, which is nothing that was read as a field.
-/

set_option autoImplicit false

namespace Rulebook

namespace DrawnNode

/-- Nothing among the extras could be taken for a field. -/
def Clean (n : DrawnNode) : Prop :=
  n.extras.Avoids ["id", "type", "data"]

theorem clean_of_ofValue {v : Value} {n : DrawnNode} (h : ofValue v = .ok n) : n.Clean := by
  obtain ⟨ms, -, hms⟩ := Value.exists_of_record h
  obtain ⟨⟨id, type, data⟩, -, rfl⟩ := map_eq_ok.mp hms
  exact Members.avoids_without ms _

/-- **A kept node is read back as it was.** -/
theorem ofValue_toValue {n : DrawnNode} (h : n.Clean) : ofValue n.toValue = .ok n := by
  have hextras : Members.without
      ([("id", .text n.id), ("type", .text n.type), ("data", .object n.data)] ++ n.extras)
      ["id", "type", "data"] = n.extras := h.without_eq
  unfold ofValue toValue Value.members?
  refine map_eq_ok.mpr ⟨(n.id, n.type, n.data), ?_, ?_⟩
  · exact Checked.both_eq_ok.mpr ⟨rfl, Checked.both_eq_ok.mpr ⟨rfl, rfl⟩⟩
  · rw [hextras]

/-- When a kept node can be written out, its fields have texts. -/
theorem displayable_of_isWritable {n : DrawnNode} (h : n.toValue.isWritable = true) :
    ∀ v ∈ n.textFields, v.Displayable := by
  have hmembers := Value.allMembersWritable_iff.mp h
  have hdata := Value.allMembersWritable_iff.mp (hmembers ("data", .object n.data) (by simp))
  have hfield : ∀ key, (n.field key).Displayable := by
    intro key
    unfold field Members.get?
    cases hfound : n.data.find? (·.1 == key) with
    | none => simp [Value.Displayable, Value.shownIntegers]
    | some m => exact Value.displayable_of_isWritable _ (hdata m (List.mem_of_find?_eq_some hfound))
  unfold textFields
  split_ifs <;> simp [hfield]

end DrawnNode

namespace DrawnEdge

/-- Nothing among the extras could be taken for a field. -/
def Clean (e : DrawnEdge) : Prop :=
  e.extras.Avoids ["id", "source", "target"]

/-- An edge without its nulls. -/
def pruned (e : DrawnEdge) : DrawnEdge :=
  { e with extras := e.extras.filter fun m => m.2 != .null }

theorem clean_of_ofValue {v : Value} {e : DrawnEdge} (h : ofValue v = .ok e) : e.Clean := by
  obtain ⟨ms, -, hms⟩ := Value.exists_of_record h
  obtain ⟨⟨id, source, target⟩, -, rfl⟩ := map_eq_ok.mp hms
  exact Members.avoids_without ms _

/-- **A kept edge is read back as it was, but for its nulls.** -/
theorem ofValue_toValue {e : DrawnEdge} (h : e.Clean) : ofValue e.toValue = .ok e.pruned := by
  obtain ⟨id, source, target, extras⟩ := e
  have hpruned := Members.Avoids.filter h fun m => m.2 != .null
  have hextras := hpruned.without_eq
  refine map_eq_ok.mpr ⟨(id, source, target), ?_, ?_⟩
  · refine Checked.both_eq_ok.mpr ⟨?_, Checked.both_eq_ok.mpr ?_⟩
    · cases id with
      | some s => rfl
      | none =>
        -- An id among the extras would be found instead.
        exact Members.optional_eq_ok.mpr (.inr ⟨hpruned.get?_eq_none (by simp), rfl⟩)
    · cases id <;> exact ⟨rfl, rfl⟩
  · cases id with
    | none => exact congrArg (DrawnEdge.mk none source target) hextras
    | some s => exact congrArg (DrawnEdge.mk (some s) source target) hextras

end DrawnEdge

namespace Drawing

/-- Nothing among the extras of nodes and edges could be taken for a field. -/
structure Clean (d : Drawing) : Prop where
  nodes : ∀ n ∈ d.nodes, n.Clean
  edges : ∀ e ∈ d.edges, e.Clean

/-- A drawing without the nulls of its edges. -/
def pruned (d : Drawing) : Drawing :=
  ⟨d.nodes, d.edges.map DrawnEdge.pruned⟩

theorem clean_of_nodesOf (v : Value) (ns : List DrawnNode) (h : nodesOf v = .ok ns) :
    ∀ n ∈ ns, n.Clean :=
  Value.forall_of_asListOf (fun _ _ => DrawnNode.clean_of_ofValue) h

theorem clean_of_edgesOf (v : Value) (es : List DrawnEdge) (h : edgesOf v = .ok es) :
    ∀ e ∈ es, e.Clean :=
  Value.forall_of_asListOf (fun _ _ => DrawnEdge.clean_of_ofValue) h

theorem nodesOf_kept {ns : List DrawnNode} (h : ∀ n ∈ ns, n.Clean) :
    nodesOf (.list (ns.map DrawnNode.toValue)) = .ok ns := by
  refine Value.asListOf_eq_ok.mpr ⟨_, rfl, ?_⟩
  rw [List.forall₂_map_left_iff, List.forall₂_same]
  exact fun n hn => DrawnNode.ofValue_toValue (h n hn)

theorem edgesOf_kept {es : List DrawnEdge} (h : ∀ e ∈ es, e.Clean) :
    edgesOf (.list (es.map DrawnEdge.toValue)) = .ok (es.map DrawnEdge.pruned) := by
  refine Value.asListOf_eq_ok.mpr ⟨_, rfl, ?_⟩
  rw [List.forall₂_map_left_iff, List.forall₂_map_right_iff, List.forall₂_same]
  exact fun e he => DrawnEdge.ofValue_toValue (h e he)

/-- What reading gives is clean. -/
theorem clean_of_ofMembers {ms : Members} {d : Drawing} (h : ofMembers ms = .ok d) : d.Clean := by
  obtain ⟨⟨ns, es⟩, hboth, rfl⟩ := map_eq_ok.mp h
  obtain ⟨hns, hes⟩ := Checked.both_eq_ok.mp hboth
  refine ⟨?_, ?_⟩
  · exact Members.of_optional_eq_ok (List.forall_mem_nil DrawnNode.Clean) clean_of_nodesOf hns
  · exact Members.of_optional_eq_ok (List.forall_mem_nil DrawnEdge.Clean) clean_of_edgesOf hes

/-- **A kept drawing is read back as it was, but for the nulls of its edges.** -/
theorem ofMembers_kept {d : Drawing} (h : d.Clean) :
    ofMembers [("nodes", .list (d.nodes.map DrawnNode.toValue)),
      ("edges", .list (d.edges.map DrawnEdge.toValue))] = .ok d.pruned := by
  refine map_eq_ok.mpr ⟨(d.nodes, d.edges.map DrawnEdge.pruned), ?_, rfl⟩
  refine Checked.both_eq_ok.mpr ⟨?_, ?_⟩
  · exact Members.optional_eq_ok.mpr (.inl ⟨_, rfl, nodesOf_kept h.nodes⟩)
  · exact Members.optional_eq_ok.mpr (.inl ⟨_, rfl, edgesOf_kept h.edges⟩)

/-- The nulls of edges play no part in the graph. -/
theorem toGraph_pruned (d : Drawing) : d.pruned.toGraph = d.toGraph := by
  unfold toGraph pruned
  rw [List.map_map]
  rfl

/-- When the kept nodes can be written out, the drawing has a graph. -/
theorem exists_toGraph_of_isWritable {d : Drawing}
    (h : (Value.list (d.nodes.map DrawnNode.toValue)).isWritable = true) :
    ∃ g, d.toGraph = .ok g := by
  rw [exists_toGraph_eq_ok]
  intro n hn
  exact DrawnNode.displayable_of_isWritable
    (Value.allWritable_iff.mp h _ (List.mem_map_of_mem hn))

end Drawing

/-! ## Requests -/

/-- A drawing that was read to be saved is clean. -/
theorem SaveRequest.clean_of_ofValue {v : Value} {q : SaveRequest} (h : ofValue v = .ok q) :
    q.drawing.Clean := by
  obtain ⟨ms, -, hms⟩ := Value.exists_of_record h
  obtain ⟨⟨drawing, name, description⟩, hboth, rfl⟩ := map_eq_ok.mp hms
  exact Drawing.clean_of_ofMembers (Checked.both_eq_ok.mp hboth).1

namespace UpdateRequest

/-- What a check promises of lists it promises of a list that may be null. -/
theorem forall_of_optionalList {α : Type} {P : α → Prop} {check : Value → Checked (List α)}
    (hcheck : ∀ v as, check v = .ok as → ∀ a ∈ as, P a) (v : Value) (o : Option (List α))
    (h : optionalList check v = .ok o) : ∀ as, o = some as → ∀ a ∈ as, P a := by
  rintro as rfl
  cases v with
  | null => simp [optionalList] at h
  | _ =>
    obtain ⟨bs, hbs, hsome⟩ := map_eq_ok.mp h
    exact Option.some.inj hsome ▸ hcheck _ bs hbs

/-- The nodes and edges of an update that was read are clean. -/
theorem clean_of_ofValue {v : Value} {u : UpdateRequest} (h : ofValue v = .ok u) :
    (∀ ns, u.nodes = some ns → ∀ n ∈ ns, n.Clean) ∧
      ∀ es, u.edges = some es → ∀ e ∈ es, e.Clean := by
  obtain ⟨ms, -, hms⟩ := Value.exists_of_record h
  obtain ⟨⟨name, description, nodes, edges⟩, hboth, rfl⟩ := map_eq_ok.mp hms
  obtain ⟨-, hboth⟩ := Checked.both_eq_ok.mp hboth
  obtain ⟨-, hboth⟩ := Checked.both_eq_ok.mp hboth
  obtain ⟨hnodes, hedges⟩ := Checked.both_eq_ok.mp hboth
  refine ⟨?_, ?_⟩
  · exact Members.of_optional_eq_ok (by simp)
      (forall_of_optionalList Drawing.clean_of_nodesOf) hnodes
  · exact Members.of_optional_eq_ok (by simp)
      (forall_of_optionalList Drawing.clean_of_edgesOf) hedges

end UpdateRequest

end Rulebook
