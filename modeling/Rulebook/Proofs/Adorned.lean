import Rulebook.Proofs.InPlace
import Rulebook.Proofs.Neighbourhood
import Rulebook.Proofs.Restored

/-!
# What a canvas adds

A canvas puts more on a drawing than a graph has: nodes of types that no graph knows, edges to and
from these, keys on nodes and edges, and data beside the fields of a node. `Drawing.Adorned` is what
may be added, or changed among what has been added. None of it is seen: an adorned drawing can be
read when the plain one can, and what is missing in it, its rule source and its runs are those of
the plain one (`Drawing.adornments_unseen`).

What is added is spread over the lists of nodes and edges, so that all that stands behind it moves.
`Padded` is the relation of lists that this comes to, on the wire as well as after reading. Of the
nodes it leaves the same nodes of the graph, in the same order. Of the edges it leaves those that
run within the graph, and no others matter (`Graph.link_of_within`, `Graph.defects_of_within`).
-/

set_option autoImplicit false

namespace Rulebook

/-! ## Padded lists -/

/-- A list that has the elements of another one in their order, each of them kept in some sense, and
among them more elements that were added. -/
inductive Padded {α : Type} (Kept : α → α → Prop) (Added : α → Prop) : List α → List α → Prop
  | nil : Padded Kept Added [] []
  | keep {a b : α} {as bs : List α} (kept : Kept a b) (rest : Padded Kept Added as bs) :
    Padded Kept Added (a :: as) (b :: bs)
  | add {b : α} {as bs : List α} (added : Added b) (rest : Padded Kept Added as bs) :
    Padded Kept Added as (b :: bs)

namespace Padded

variable {ε α β : Type}

/-- Padding carries over to what is read of the elements, when each that was kept or added can still
be read. -/
theorem read {Kept : α → α → Prop} {Added : α → Prop} {Kept' : β → β → Prop} {Added' : β → Prop}
    {Reads : α → β → Prop}
    (hkept : ∀ v w a, Kept v w → Reads v a → ∃ b, Reads w b ∧ Kept' a b)
    (hadded : ∀ w, Added w → ∃ b, Reads w b ∧ Added' b) {vs ws : List α}
    (h : Padded Kept Added vs ws) {as : List β} (hread : List.Forall₂ Reads vs as) :
    ∃ bs, List.Forall₂ Reads ws bs ∧ Padded Kept' Added' as bs := by
  induction h generalizing as with
  | nil =>
    cases hread
    exact ⟨[], .nil, .nil⟩
  | keep kept _ ih =>
    obtain ⟨a, as, hv, hvs, rfl⟩ := List.forall₂_cons_left_iff.mp hread
    obtain ⟨b, hw, hb⟩ := hkept _ _ a kept hv
    obtain ⟨bs, hws, hbs⟩ := ih hvs
    exact ⟨b :: bs, .cons hw hws, .keep hb hbs⟩
  | add added _ ih =>
    obtain ⟨b, hw, hb⟩ := hadded _ added
    obtain ⟨bs, hws, hbs⟩ := ih hread
    exact ⟨b :: bs, .cons hw hws, .add hb hbs⟩

theorem filterMapM_eq {f : α → Except ε (Option β)} {as bs : List α}
    (h : Padded (fun a b => f b = f a) (fun b => f b = .ok none) as bs) :
    bs.filterMapM f = as.filterMapM f := by
  induction h with
  | nil => rfl
  | keep kept _ ih => rw [List.filterMapM_cons, List.filterMapM_cons, kept, ih]
  | add added _ ih =>
    rw [List.filterMapM_cons, added]
    exact ih

theorem filter_map_eq {f : α → β} {p : β → Bool} {as bs : List α}
    (h : Padded (fun a b => f b = f a) (fun b => p (f b) = false) as bs) :
    (bs.map f).filter p = (as.map f).filter p := by
  induction h with
  | nil => rfl
  | keep kept _ ih => rw [List.map_cons, List.map_cons, kept, List.filter_cons, List.filter_cons, ih]
  | add added _ ih => rw [List.map_cons, List.filter_cons, added, if_neg Bool.false_ne_true, ih]

end Padded

/-! ## Edges within a graph -/

/-- Whether an edge runs from one of the ids to one of them. -/
def Edge.within (ids : List String) (e : Edge) : Bool :=
  ids.contains e.source && ids.contains e.target

namespace Graph

variable {nodes : List Node} {edges edges' : List Edge}

theorem id_mem_of_filterMap {α : Type} {kind? : Node → Option (Placed α)}
    (hkind : ∀ {n p}, kind? n = some p → p.id = n.id) {p : Placed α}
    (hp : p ∈ nodes.filterMap kind?) : p.id ∈ nodes.map (·.id) := by
  obtain ⟨n, hn, hsome⟩ := List.mem_filterMap.mp hp
  exact List.mem_map.mpr ⟨n, hn, (hkind hsome).symm⟩

theorem any_of_filter {α : Type} {p q : α → Bool} {as bs : List α}
    (hsame : bs.filter p = as.filter p) (hq : ∀ a, q a = true → p a = true) :
    bs.any q = as.any q := by
  have hboth : (fun a => p a && q a) = q := by
    funext a
    rw [Bool.and_eq_right_iff_imp]
    exact hq a
  calc
    bs.any q = (bs.filter p).any q := by rw [List.any_filter, hboth]
    _ = (as.filter p).any q := by rw [hsame]
    _ = as.any q := by rw [List.any_filter, hboth]

/-- Linking looks at no other edges than those between nodes of the graph. -/
theorem link_of_within (hsame : edges'.filter (Edge.within (nodes.map (·.id))) =
      edges.filter (Edge.within (nodes.map (·.id)))) :
    (mk nodes edges').link = (mk nodes edges).link := by
  apply link_of_connects
  rintro used ⟨r, hr, hsource, htarget⟩
  -- What connects as a used edge does runs from the first rule to a condition or an action.
  refine any_of_filter hsame fun e he => ?_
  obtain ⟨hes, het⟩ := Bool.and_eq_true_iff.mp he
  have hr : e.source ∈ nodes.map (·.id) := by
    rw [beq_iff_eq.mp hes, hsource]
    exact id_mem_of_filterMap Node.rule?_id (List.mem_of_head? hr)
  have ht : e.target ∈ nodes.map (·.id) := by
    rw [beq_iff_eq.mp het]
    rcases htarget with hc | ha
    · obtain ⟨c, hc, hid⟩ := List.mem_map.mp hc
      exact hid ▸ id_mem_of_filterMap Node.condition?_id hc
    · obtain ⟨a, ha, hid⟩ := List.mem_map.mp ha
      exact hid ▸ id_mem_of_filterMap Node.action?_id ha
  simp only [Edge.within, List.contains_iff_mem.mpr hr, List.contains_iff_mem.mpr ht, Bool.and_true]

/-- Nor does validation. -/
theorem defects_of_within (hsame : edges'.filter (Edge.within (nodes.map (·.id))) =
      edges.filter (Edge.within (nodes.map (·.id)))) :
    (mk nodes edges').defects = (mk nodes edges).defects := by
  -- The two parts about edges ask for one from a rule to some nodes of the graph.
  have hleads : ∀ targets : List String, (∀ t ∈ targets, t ∈ nodes.map (·.id)) →
      (mk nodes edges').leadsTo targets = (mk nodes edges).leadsTo targets := by
    intro targets htargets
    refine any_of_filter hsame fun e he => ?_
    obtain ⟨hsource, htarget⟩ := Bool.and_eq_true_iff.mp he
    obtain ⟨r, hr, hid⟩ := List.mem_map.mp (List.contains_iff_mem.mp hsource)
    have hs : e.source ∈ nodes.map (·.id) := hid ▸ id_mem_of_filterMap Node.rule?_id hr
    have ht := htargets _ (List.contains_iff_mem.mp htarget)
    simp only [Edge.within, List.contains_iff_mem.mpr hs, List.contains_iff_mem.mpr ht,
      Bool.and_true]
  have hconditions := hleads ((mk nodes edges).conditions.map (·.id)) (by
    rw [List.forall_mem_map]
    exact fun c hc => id_mem_of_filterMap Node.condition?_id hc)
  have hactions := hleads ((mk nodes edges).actions.map (·.id)) (by
    rw [List.forall_mem_map]
    exact fun a ha => id_mem_of_filterMap Node.action?_id ha)
  unfold defects
  rw [← hconditions, ← hactions]
  rfl

end Graph

/-! ## What is read of nodes -/

namespace DrawnNode

variable {n n' : DrawnNode} {ms : Members} {v w : Value}

/-- Whether a graph knows the type of a node. -/
def Known (n : DrawnNode) : Prop :=
  n.type ∈ [ruleType, conditionType, actionType]

instance (n : DrawnNode) : Decidable n.Known :=
  inferInstanceAs (Decidable (n.type ∈ _))

/-- The keys of the data that a node of some type is read from. -/
def dataKeys (type : String) : List String :=
  if type = ruleType then ["name", "description", "priority"]
  else if type = conditionType then ["field", "operator", "value"]
  else if type = actionType then ["type", "target", "value"]
  else []

/-- Of the data nothing else is read. -/
theorem toNode?_congr (hid : n'.id = n.id) (htype : n'.type = n.type)
    (hfields : ∀ key ∈ dataKeys n.type, n'.field key = n.field key) : n'.toNode? = n.toNode? := by
  unfold toNode?
  unfold dataKeys at hfields
  rw [hid, htype]
  split_ifs at hfields ⊢
  · simp only [List.forall_mem_cons] at hfields
    rw [hfields.1, hfields.2.1, hfields.2.2.1]
  · simp only [List.forall_mem_cons] at hfields
    rw [hfields.1, hfields.2.1, hfields.2.2.1]
  · simp only [List.forall_mem_cons] at hfields
    rw [hfields.1, hfields.2.1, hfields.2.2.1]
  · rfl

/-- A node becomes one of the graph under its own id, if its type is known. -/
theorem map_id_of_toNode? {o : Option Node} (h : n.toNode? = .ok o) :
    o.map (·.id) = if n.Known then some n.id else none := by
  unfold toNode? at h
  unfold Known
  split_ifs at h with hrule hcondition haction
  · obtain ⟨name, -, h⟩ := bind_eq_ok.mp h
    obtain ⟨description, -, h⟩ := bind_eq_ok.mp h
    obtain rfl : _ = o := Except.ok.inj h
    simp [hrule]
  · obtain ⟨field, -, h⟩ := bind_eq_ok.mp h
    obtain ⟨operator, -, h⟩ := bind_eq_ok.mp h
    obtain ⟨literal, -, h⟩ := bind_eq_ok.mp h
    obtain rfl : _ = o := Except.ok.inj h
    simp [hcondition]
  · obtain ⟨tag, -, h⟩ := bind_eq_ok.mp h
    obtain ⟨target, -, h⟩ := bind_eq_ok.mp h
    obtain ⟨literal, -, h⟩ := bind_eq_ok.mp h
    obtain rfl : _ = o := Except.ok.inj h
    simp [haction]
  · obtain rfl : _ = o := Except.ok.inj h
    simp [hrule, hcondition, haction]

theorem toNode?_of_not_known (h : ¬ n.Known) : n.toNode? = .ok none := by
  simp only [Known, List.mem_cons, List.not_mem_nil, or_false, not_or] at h
  obtain ⟨hrule, hcondition, haction⟩ := h
  unfold toNode?
  rw [if_neg hrule, if_neg hcondition, if_neg haction]
  rfl

theorem ReadFrom.at?_data (h : n.ReadFrom ms) (key : String) :
    (Value.object ms).at? ["data", key] = n.data.get? key := by
  have hdata : (Value.object ms).at? ["data"] = ms.get? "data" := Value.at?_key ms "data"
  rcases h.data with hobject | ⟨hnone, hnil⟩
  · exact Value.at?_concat (hdata.trans hobject) key
  · show (ms.get? "data").bind (·.at? [key]) = _
    rw [hnone, hnil]
    rfl

/-- What it takes for a node to be read. -/
theorem exists_ofValue_eq_ok {id type : String} (hid : ms.get? "id" = some (.text id))
    (htype : ms.get? "type" = some (.text type))
    (hdata : ∀ held, ms.get? "data" = some held → ∃ data, held = .object data) :
    ∃ n, ofValue (.object ms) = .ok n := by
  have hread : ∃ data, ms.optional "data" [] Value.asObject = .ok data := by
    cases hheld : ms.get? "data" with
    | none => exact ⟨[], Members.optional_eq_ok.mpr (.inr ⟨hheld, rfl⟩)⟩
    | some held =>
      obtain ⟨data, rfl⟩ := hdata held hheld
      exact ⟨data, Members.optional_eq_ok.mpr (.inl ⟨_, hheld, rfl⟩)⟩
  obtain ⟨data, hread⟩ := hread
  refine ⟨_, map_eq_ok.mpr ⟨(id, type, data), Checked.both_eq_ok.mpr ⟨?_, ?_⟩, rfl⟩⟩
  · exact Members.required_eq_ok.mpr ⟨_, hid, rfl⟩
  · exact Checked.both_eq_ok.mpr ⟨Members.required_eq_ok.mpr ⟨_, htype, rfl⟩, hread⟩

/-- Two nodes on the wire that differ only in what no graph reads: in keys other than the id, the
type and the data, and in the data other than the fields of the type. -/
structure Redecorated (v w : Value) : Prop where
  id : w.at? ["id"] = v.at? ["id"]
  type : w.at? ["type"] = v.at? ["type"]
  data : ∀ held, w.at? ["data"] = some held → ∃ ms, held = .object ms
  fields : ∀ type, v.at? ["type"] = some (.text type) →
    ∀ key ∈ dataKeys type, w.at? ["data", key] = v.at? ["data", key]

/-- A node of a type that no graph knows. -/
def IsNote (w : Value) : Prop :=
  ∃ n, ofValue w = .ok n ∧ ¬ n.Known

theorem IsNote.read (h : IsNote w) : ∃ n, ofValue w = .ok n ∧ n.toNode? = .ok none := by
  obtain ⟨n, hn, hunknown⟩ := h
  exact ⟨n, hn, toNode?_of_not_known hunknown⟩

/-- **A step for nodes.** What differs only in what no graph reads is read as the same node of the
graph. -/
theorem Redecorated.read (h : Redecorated v w) (hv : ofValue v = .ok n) :
    ∃ n', ofValue w = .ok n' ∧ n'.toNode? = n.toNode? := by
  obtain ⟨ms, rfl, hread⟩ := readFrom hv
  have hid : w.at? ["id"] = some (.text n.id) :=
    h.id.trans ((Value.at?_key ms "id").trans hread.id)
  obtain ⟨ms', _, rfl, -, -⟩ := Value.exists_of_at?_cons hid
  have htype : (Value.object ms).at? ["type"] = some (.text n.type) :=
    (Value.at?_key ms "type").trans hread.type
  have hid' : Members.get? ms' "id" = some (.text n.id) := by
    rw [← Value.at?_key, hid]
  have htype' : Members.get? ms' "type" = some (.text n.type) := by
    rw [← Value.at?_key, h.type, htype]
  -- The other node can be read at all, and what is read has the same id, type and fields.
  obtain ⟨n', hn'⟩ := exists_ofValue_eq_ok hid' htype' fun held hheld =>
    h.data held ((Value.at?_key ms' "data").trans hheld)
  obtain ⟨_, hobject, hread'⟩ := readFrom hn'
  obtain rfl := Value.object.inj hobject
  have hsameId : n'.id = n.id := Value.text.inj (Option.some.inj (hread'.id.symm.trans hid'))
  have hsameType : n'.type = n.type :=
    Value.text.inj (Option.some.inj (hread'.type.symm.trans htype'))
  refine ⟨n', hn', toNode?_congr hsameId hsameType fun key hkey => ?_⟩
  unfold field
  rw [← hread'.at?_data, h.fields n.type htype key hkey, hread.at?_data]

end DrawnNode

/-! ## What is read of edges -/

namespace DrawnEdge

variable {e : DrawnEdge} {v w : Value} {ids : List String}

/-- Two edges on the wire that differ only in keys that no graph reads. -/
def Redecorated (v w : Value) : Prop :=
  ∀ key ∈ ["id", "source", "target"], w.at? [key] = v.at? [key]

instance (v w : Value) : Decidable (Redecorated v w) :=
  inferInstanceAs (Decidable (∀ key ∈ _, _))

/-- An edge that starts or ends elsewhere than at one of the ids. -/
def IsStray (ids : List String) (w : Value) : Prop :=
  ∃ e, ofValue w = .ok e ∧ (e.source ∉ ids ∨ e.target ∉ ids)

/-- **A step for edges.** -/
theorem Redecorated.read (h : Redecorated v w) (hv : ofValue v = .ok e) :
    ∃ e', ofValue w = .ok e' ∧ e'.toEdge = e.toEdge := by
  obtain ⟨ms, rfl, hread⟩ := readFrom hv
  have hsource : w.at? ["source"] = some (.text e.source) :=
    (h "source" (by simp)).trans ((Value.at?_key ms "source").trans hread.source)
  obtain ⟨ms', _, rfl, -, -⟩ := Value.exists_of_at?_cons hsource
  have hsame : ∀ key ∈ ["id", "source", "target"], Members.get? ms' key = Members.get? ms key := by
    intro key hkey
    exact (Value.at?_key ms' key).symm.trans ((h key hkey).trans (Value.at?_key ms key))
  -- The same three reads succeed with the same results.
  obtain ⟨⟨id, source, target⟩, hboth, rfl⟩ := map_eq_ok.mp hv
  obtain ⟨hid, hboth⟩ := Checked.both_eq_ok.mp hboth
  obtain ⟨hs, ht⟩ := Checked.both_eq_ok.mp hboth
  refine ⟨_, map_eq_ok.mpr ⟨(id, source, target), Checked.both_eq_ok.mpr ⟨?_,
    Checked.both_eq_ok.mpr ⟨?_, ?_⟩⟩, rfl⟩, rfl⟩
  · rw [Members.optional_eq_ok, hsame "id" (by simp), ← Members.optional_eq_ok]
    exact hid
  · rw [Members.required_eq_ok, hsame "source" (by simp), ← Members.required_eq_ok]
    exact hs
  · rw [Members.required_eq_ok, hsame "target" (by simp), ← Members.required_eq_ok]
    exact ht

theorem IsStray.read (h : IsStray ids w) :
    ∃ e, ofValue w = .ok e ∧ e.toEdge.within ids = false := by
  obtain ⟨e, he, hstray⟩ := h
  refine ⟨e, he, ?_⟩
  rw [Bool.eq_false_iff]
  intro hwithin
  obtain ⟨hsource, htarget⟩ := Bool.and_eq_true_iff.mp hwithin
  rcases hstray with hno | hno
  · exact hno (List.contains_iff_mem.mp hsource)
  · exact hno (List.contains_iff_mem.mp htarget)

end DrawnEdge

/-! ## Drawings -/

theorem filterMapM_eq_mapM {ε α β : Type} (f : α → Except ε (Option β)) (as : List α) :
    as.filterMapM f = (as.mapM f).map (·.filterMap id) := by
  induction as with
  | nil => rfl
  | cons a as ih =>
    rw [List.filterMapM_cons, List.mapM_cons, ih]
    cases f a with
    | error e => rfl
    | ok o => cases o <;> cases as.mapM f <;> rfl

/-- What a list under a key holds; without the key, nothing. -/
def Value.HasItems (v : Value) (key : String) (items : List Value) : Prop :=
  v.at? [key] = some (.list items) ∨ v.at? [key] = none ∧ items = []

theorem Value.HasItems.optional_eq_ok {α : Type} {ms : Members} {key : String} {items : List Value}
    {check : Value → Checked α} {as : List α} (h : (Value.object ms).HasItems key items) :
    ms.optional key [] (·.asListOf check) = .ok as ↔
      List.Forall₂ (fun item a => check item = .ok a) items as := by
  unfold HasItems at h
  rw [Value.at?_key] at h
  rw [Members.optional_eq_ok]
  rcases h with hlist | ⟨hnone, rfl⟩
  · simp [hlist, Value.asListOf_eq_ok]
  · simp [hnone]

namespace Drawing

variable {d d' : Drawing} {v w : Value}

/-- The ids of the nodes that a drawing has in its graph. -/
def graphIds (d : Drawing) : List String :=
  (d.nodes.filter (·.Known)).map (·.id)

/-- All that is seen of a drawing: what is missing in its graph, and what the graph links to. -/
def view (d : Drawing) : Except DisplayError (List Defect × Option LinkedRule) :=
  d.toGraph.map fun g => (g.defects, g.link)

theorem toGraph_eq (d : Drawing) : d.toGraph =
    (d.nodes.filterMapM DrawnNode.toNode?).map fun nodes => ⟨nodes, d.edges.map (·.toEdge)⟩ := by
  unfold toGraph
  rw [filterMapM_eq_mapM]
  cases d.nodes.mapM DrawnNode.toNode? <;> rfl

theorem ids_of_filterMapM {ns : List DrawnNode} {nodes : List Node}
    (h : ns.filterMapM DrawnNode.toNode? = .ok nodes) :
    nodes.map (·.id) = (ns.filter (·.Known)).map (·.id) := by
  induction ns generalizing nodes with
  | nil =>
    obtain rfl : [] = nodes := Except.ok.inj h
    rfl
  | cons n ns ih =>
    rw [List.filterMapM_cons] at h
    obtain ⟨o, ho, h⟩ := bind_eq_ok.mp h
    have hid := DrawnNode.map_id_of_toNode? ho
    rw [List.filter_cons]
    cases o with
    | none =>
      have hunknown : ¬ n.Known := by
        intro hknown
        rw [if_pos hknown] at hid
        exact nomatch hid
      rw [if_neg (mt of_decide_eq_true hunknown)]
      exact ih h
    | some m =>
      have hknown : n.Known := by
        by_contra hunknown
        rw [if_neg hunknown] at hid
        exact nomatch hid
      obtain ⟨rest, hrest, h⟩ := bind_eq_ok.mp h
      obtain rfl : m :: rest = nodes := Except.ok.inj h
      have hsame : m.id = n.id := by
        rw [if_pos hknown] at hid
        exact Option.some.inj hid
      rw [if_pos (decide_eq_true hknown), List.map_cons, List.map_cons, ih hrest, hsame]

/-- Padding with what is not in the graph is not seen. -/
theorem view_eq_of_padded
    (hnodes : Padded (fun n n' => n'.toNode? = n.toNode?) (fun n => n.toNode? = .ok none)
      d.nodes d'.nodes)
    (hedges : Padded (fun e e' => e'.toEdge = e.toEdge)
      (fun e => e.toEdge.within d.graphIds = false) d.edges d'.edges) : d'.view = d.view := by
  unfold view
  rw [toGraph_eq, toGraph_eq, hnodes.filterMapM_eq]
  cases hread : d.nodes.filterMapM DrawnNode.toNode? with
  | error e => rfl
  | ok nodes =>
    have hsame : (d'.edges.map (·.toEdge)).filter (Edge.within d.graphIds) =
        (d.edges.map (·.toEdge)).filter (Edge.within d.graphIds) := hedges.filter_map_eq
    rw [graphIds, ← ids_of_filterMapM hread] at hsame
    -- Both graphs have the same nodes; the edges differ outside of them.
    show Except.ok (_, _) = Except.ok (_, _)
    rw [Graph.defects_of_within hsame, Graph.link_of_within hsame]

/-- What a canvas may add to a drawing on the wire, given the ids of the nodes in the graph: nodes
of unknown types, edges that start or end at something else (as they do at an added node that has an
id of its own), and whatever else no graph reads. -/
structure Adorned (ids : List String) (v w : Value) : Prop where
  object : ∃ ms, w = .object ms
  nodes : ∃ items items', v.HasItems "nodes" items ∧ w.HasItems "nodes" items' ∧
    Padded DrawnNode.Redecorated DrawnNode.IsNote items items'
  edges : ∃ items items', v.HasItems "edges" items ∧ w.HasItems "edges" items' ∧
    Padded DrawnEdge.Redecorated (DrawnEdge.IsStray ids) items items'

/-- An adorned drawing can be read, and nothing else is seen of it. -/
theorem Adorned.read (hd : ofValue v = .ok d) (h : Adorned d.graphIds v w) :
    ∃ d', ofValue w = .ok d' ∧ d'.view = d.view := by
  obtain ⟨ms, rfl, hd⟩ := Value.exists_of_record hd
  obtain ⟨ms', rfl⟩ := h.object
  obtain ⟨items, items', hitems, hitems', hpadded⟩ := h.nodes
  obtain ⟨links, links', hlinks, hlinks', hstray⟩ := h.edges
  obtain ⟨⟨ns, es⟩, hboth, rfl⟩ := map_eq_ok.mp hd
  obtain ⟨hns, hes⟩ := Checked.both_eq_ok.mp hboth
  have hreadNodes := hitems.optional_eq_ok.mp hns
  have hreadEdges := hlinks.optional_eq_ok.mp hes
  obtain ⟨ns', hns', hnodes⟩ := hpadded.read (fun _ _ _ h hv => h.read hv)
    (fun _ h => h.read) hreadNodes
  obtain ⟨es', hes', hedges⟩ := hstray.read (fun _ _ _ h hv => h.read hv)
    (fun _ h => h.read) hreadEdges
  refine ⟨⟨ns', es'⟩, map_eq_ok.mpr ⟨(ns', es'), Checked.both_eq_ok.mpr ⟨?_, ?_⟩, rfl⟩,
    view_eq_of_padded hnodes hedges⟩
  · exact hitems'.optional_eq_ok.mpr hns'
  · exact hlinks'.optional_eq_ok.mpr hes'

/-! ## What is seen -/

/-- Drawings of which the same is seen have graphs with the same defects and the same linked rule,
unless neither has a graph. -/
theorem toGraph_of_view (h : d'.view = d.view) :
    (∃ e, d'.toGraph = .error e ∧ d.toGraph = .error e) ∨
      ∃ g' g, d'.toGraph = .ok g' ∧ d.toGraph = .ok g ∧ g'.defects = g.defects ∧
        g'.link = g.link := by
  unfold view at h
  cases hg : d.toGraph with
  | error e =>
    cases hg' : d'.toGraph with
    | error e' =>
      rw [hg, hg'] at h
      exact .inl ⟨e, congrArg Except.error (Except.error.inj h), rfl⟩
    | ok g' =>
      rw [hg, hg'] at h
      exact nomatch h
  | ok g =>
    cases hg' : d'.toGraph with
    | error e' =>
      rw [hg, hg'] at h
      exact nomatch h
    | ok g' =>
      rw [hg, hg'] at h
      obtain ⟨hdefects, hlink⟩ := Prod.mk.inj (Except.ok.inj h)
      exact .inr ⟨g', g, rfl, rfl, hdefects, hlink⟩

theorem map_toGraph_of_view {α : Type} {use : Graph → α} (h : d'.view = d.view)
    (huse : ∀ g' g : Graph, g'.defects = g.defects → g'.link = g.link → use g' = use g) :
    d'.toGraph.map use = d.toGraph.map use := by
  rcases toGraph_of_view h with ⟨e, herror', herror⟩ | ⟨g', g, hg', hg, hdefects, hlink⟩
  · rw [herror', herror]
  · rw [hg', hg]
    exact congrArg Except.ok (huse g' g hdefects hlink)

end Drawing

namespace Service

variable {d d' : Drawing}

theorem graphOf_bind_of_view {α : Type} {use : Graph → Except ServiceError α}
    (h : d'.view = d.view)
    (huse : ∀ g' g : Graph, g'.defects = g.defects → g'.link = g.link → use g' = use g) :
    graphOf d' >>= use = graphOf d >>= use := by
  unfold graphOf
  rcases Drawing.toGraph_of_view h with
    ⟨e, herror', herror⟩ | ⟨g', g, hg', hg, hdefects, hlink⟩
  · rw [herror', herror]
  · rw [hg', hg]
    exact huse g' g hdefects hlink

theorem validate_of_view (h : d'.view = d.view) : validate d' = validate d := by
  refine graphOf_bind_of_view h fun g' g hdefects _ => ?_
  rw [Graph.isValid, Graph.isValid, hdefects]

theorem source_of_view (h : d'.view = d.view) : source d' = source d := by
  refine graphOf_bind_of_view h fun g' g _ hlink => ?_
  rw [hlink]

theorem execute_of_view (h : d'.view = d.view) (input : Value) :
    execute d' input = execute d input := by
  refine graphOf_bind_of_view h fun g' g _ hlink => ?_
  rw [hlink]

end Service

namespace Drawing

/-- **What a canvas adds is not seen.** A drawing that can be read can be read with all that a canvas
adds, and then nothing is missing that was not missing before, nor named by another number; the rule
source is the same, and so is the run on every input. The service answers the same, too. -/
theorem adornments_unseen {v w : Value} {d : Drawing} (hd : ofValue v = .ok d)
    (h : Adorned d.graphIds v w) :
    ∃ d', ofValue w = .ok d' ∧
      d'.toGraph.map (fun g => (g.isValid, g.defects.map Defect.message)) =
        d.toGraph.map (fun g => (g.isValid, g.defects.map Defect.message)) ∧
      d'.toGraph.map (fun g => Drl.generate g.link) =
        d.toGraph.map (fun g => Drl.generate g.link) ∧
      (∀ input, d'.toGraph.map (fun g => Simulation.run g.link input) =
        d.toGraph.map fun g => Simulation.run g.link input) ∧
      Service.validate d' = Service.validate d ∧ Service.source d' = Service.source d ∧
      ∀ input, Service.execute d' input = Service.execute d input := by
  obtain ⟨d', hd', hview⟩ := h.read hd
  refine ⟨d', hd', ?_, ?_, ?_, Service.validate_of_view hview, Service.source_of_view hview,
    Service.execute_of_view hview⟩
  · refine map_toGraph_of_view hview fun g' g hdefects _ => ?_
    rw [Graph.isValid, Graph.isValid, hdefects]
  · refine map_toGraph_of_view hview fun g' g _ hlink => ?_
    rw [hlink]
  · intro input
    refine map_toGraph_of_view hview fun g' g _ hlink => ?_
    rw [hlink]

/-- A drawing without a value in its condition. Before the condition a note is put, and edges from
the note and to it; the rule gets a place, its data a colour, and an edge a label. The condition is
still the first. -/
theorem adornments_unseen_note :
    let rule (extras data : Members) : Value :=
      .object ([("id", .text "r"), ("type", .text "rule"),
        ("data", .object (("name", .text "Adult") :: data))] ++ extras)
    let condition : Value := .object [("id", .text "c"), ("type", .text "condition"),
      ("data", .object [("field", .text "age"), ("operator", .text ">=")])]
    let action : Value := .object [("id", .text "a"), ("type", .text "action"),
      ("data", .object [("type", .text "setProperty"), ("target", .text "adult"),
        ("value", .bool true)])]
    let note : Value := .object [("id", .text "n"), ("type", .text "note")]
    let edge (source target : String) (extras : Members) : Value :=
      .object ([("source", .text source), ("target", .text target)] ++ extras)
    let v : Value := .object [("nodes", .list [rule [] [], condition, action]),
      ("edges", .list [edge "r" "c" [], edge "r" "a" []])]
    let w : Value := .object [
      ("nodes", .list [rule [("position", .int 7)] [("color", .text "red")], note, condition,
        action]),
      ("edges", .list [edge "n" "c" [], edge "r" "c" [("label", .text "if")], edge "r" "n" [],
        edge "r" "a" []]),
      ("zoom", .int 2)]
    ∃ d d', ofValue v = .ok d ∧ Adorned d.graphIds v w ∧ ofValue w = .ok d' ∧
      d'.toGraph.map (fun g => (g.isValid, g.defects.map Defect.message)) =
        .ok (false, ["Condition 1: Value is required"]) ∧
      Service.validate d' = Service.validate d := by
  intro rule condition action note edge v w
  obtain ⟨d, hd⟩ : ∃ d, ofValue v = .ok d := ⟨_, rfl⟩
  have hids : d.graphIds = ["r", "c", "a"] := by
    obtain rfl := Except.ok.inj hd
    rfl
  have hnode : ∀ u ms, u.at? ["data"] = some (.object ms) → DrawnNode.Redecorated u u := by
    intro u ms hdata
    refine ⟨rfl, rfl, fun held hheld => ⟨ms, ?_⟩, fun _ _ _ _ => rfl⟩
    exact Option.some.inj (hheld.symm.trans hdata)
  have hrule : DrawnNode.Redecorated (rule [] [])
      (rule [("position", .int 7)] [("color", .text "red")]) := by
    refine ⟨rfl, rfl, fun held hheld => ⟨_, (Option.some.inj hheld).symm⟩, ?_⟩
    intro type htype
    obtain rfl : "rule" = type := Value.text.inj (Option.some.inj htype)
    decide
  have hadorned : Adorned d.graphIds v w := by
    rw [hids]
    refine ⟨⟨_, rfl⟩, ⟨_, _, .inl rfl, .inl rfl, ?_⟩, ⟨_, _, .inl rfl, .inl rfl, ?_⟩⟩
    · exact .keep hrule (.add ⟨_, rfl, by decide⟩
        (.keep (hnode _ _ rfl) (.keep (hnode _ _ rfl) .nil)))
    · exact .add ⟨_, rfl, .inl (by decide)⟩ (.keep (by decide)
        (.add ⟨_, rfl, .inr (by decide)⟩ (.keep (by decide) .nil)))
  obtain ⟨d', hd', hvalid, -, -, hanswer, -⟩ := adornments_unseen hd hadorned
  refine ⟨d, d', hd, hadorned, hd', hvalid.trans ?_, hanswer⟩
  obtain rfl := Except.ok.inj hd
  rfl

end Drawing

end Rulebook
