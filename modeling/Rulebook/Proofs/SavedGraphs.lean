import Mathlib.Data.List.Induction
import Rulebook.Proofs.Kept
import Rulebook.Proofs.Lookup
import Rulebook.Proofs.Routing

/-!
# The graphs of saved rules

What requests can do to the store is one of four things (`Service.Effect`), and from it two
statements follow about all runs from an empty database. Every stored rule has a graph, whatever was
sent. And the graphs of the stored rules are valid exactly as long as no update leaves columns that
make an invalid one: saving checks, deleting takes away, but an update is stored as it comes.
-/

set_option autoImplicit false

namespace Rulebook

/-! ## Columns that hold a drawing -/

/-- A tree that holds the nodes of a drawing and can be written out. -/
def Value.HoldsNodes (v : Value) : Prop :=
  ∃ ns : List DrawnNode, (∀ n ∈ ns, n.Clean) ∧ v = .list (ns.map DrawnNode.toValue) ∧
    v.isWritable = true

/-- A tree that holds the edges of a drawing. -/
def Value.HoldsEdges (v : Value) : Prop :=
  ∃ es : List DrawnEdge, (∀ e ∈ es, e.Clean) ∧ v = .list (es.map DrawnEdge.toValue)

namespace SavedRule

/-- The columns of a rule hold a drawing. -/
structure HoldsDrawing (r : SavedRule) : Prop where
  nodes : r.nodes.HoldsNodes
  edges : r.edges.HoldsEdges

/-- The drawing that is stored has a graph, and the graph is valid. -/
def GraphValid (r : SavedRule) : Prop :=
  ∃ d g, r.drawing = .ok d ∧ d.toGraph = .ok g ∧ g.isValid = true

/-- The drawing that is read from columns in which one is kept. -/
theorem drawing_of_kept {r : SavedRule} {d : Drawing} (hclean : d.Clean)
    (hnodes : r.nodes = .list (d.nodes.map DrawnNode.toValue))
    (hedges : r.edges = .list (d.edges.map DrawnEdge.toValue)) : r.drawing = .ok d.pruned := by
  unfold drawing
  rw [hnodes, hedges]
  exact Drawing.ofMembers_kept hclean

theorem HoldsDrawing.graph {r : SavedRule} (h : r.HoldsDrawing) :
    ∃ d g, r.drawing = .ok d ∧ d.toGraph = .ok g := by
  obtain ⟨⟨ns, hns, hnodes, hwritable⟩, es, hes, hedges⟩ := h
  have hclean : Drawing.Clean ⟨ns, es⟩ := ⟨hns, hes⟩
  rw [hnodes] at hwritable
  obtain ⟨g, hg⟩ := Drawing.exists_toGraph_of_isWritable (d := ⟨ns, es⟩) hwritable
  exact ⟨_, g, drawing_of_kept hclean hnodes hedges, (Drawing.toGraph_pruned ⟨ns, es⟩).trans hg⟩

/-- Whether the graph is valid is a matter of the two columns. -/
theorem graphValid_congr {r s : SavedRule} (hnodes : r.nodes = s.nodes) (hedges : r.edges = s.edges)
    (h : s.GraphValid) : r.GraphValid := by
  unfold GraphValid drawing at *
  rw [hnodes, hedges]
  exact h

/-- A valid drawing that is kept as it was sent is still valid. -/
theorem graphValid_of_kept {r : SavedRule} {d : Drawing} {g : Graph} (hclean : d.Clean)
    (hnodes : r.nodes = .list (d.nodes.map DrawnNode.toValue))
    (hedges : r.edges = .list (d.edges.map DrawnEdge.toValue)) (hgraph : d.toGraph = .ok g)
    (hvalid : g.isValid = true) : r.GraphValid :=
  ⟨d.pruned, g, drawing_of_kept hclean hnodes hedges, (Drawing.toGraph_pruned d).trans hgraph,
    hvalid⟩

end SavedRule

namespace UpdateRequest

/-- An update as the store sees it. -/
def revision (u : UpdateRequest) : Revision where
  name := u.name
  description := u.description
  nodes := u.nodes.map fun ns => ns.map fun n => n.toValue.members?.getD []
  edges := u.edges.map fun es => es.map fun e => e.toValue.members?.getD []

theorem tree_nodes (ns : List DrawnNode) :
    Revision.tree (ns.map fun n => n.toValue.members?.getD []) =
      .list (ns.map DrawnNode.toValue) := by
  unfold Revision.tree
  rw [List.map_map]
  rfl

theorem tree_edges (es : List DrawnEdge) :
    Revision.tree (es.map fun e => e.toValue.members?.getD []) =
      .list (es.map DrawnEdge.toValue) := by
  unfold Revision.tree
  rw [List.map_map]
  rfl

theorem revision_changes (u : UpdateRequest) : u.revision.changes = u.changes := by
  obtain ⟨name, description, nodes, edges⟩ := u
  cases nodes <;> cases edges <;>
    simp [revision, Revision.changes, changes, tree_nodes, tree_edges]

end UpdateRequest

/-! ## What the store does -/

namespace Store

/-- What holds of the kept tree and of every tree that is stored in its place holds of the column
after an update. -/
theorem column_of {P : Value → Prop} {oneNaN : Bool} {kept : Value} {given : Option (List Members)}
    (hkept : P kept) (hstorable : Storable oneNaN kept given)
    (hgiven : ∀ objects, given = some objects → (Revision.tree objects).isWritable = true →
      P (Revision.tree objects)) : P (column oneNaN kept given) := by
  cases given with
  | none => exact hkept
  | some objects =>
    cases hsame : (Revision.tree objects).sameAs oneNaN kept with
    | true => simpa [column, hsame] using hkept
    | false => simpa [column, hsame] using hgiven objects rfl (hstorable objects rfl hsame)

theorem mem_replace {s : Store} {id : String} {new r : SavedRule}
    (h : r ∈ (s.replace id new).rules) : r = new ∨ r ∈ s.rules := by
  obtain ⟨x, hx, hr⟩ := List.mem_map.mp h
  split_ifs at hr with hid
  · exact .inl hr.symm
  · exact .inr (hr ▸ hx)

end Store

/-! ## What a request does to the store -/

namespace Service

/-- A request with the moment at which it comes. -/
structure Arrival where
  now : Timestamp
  request : Request

/-- The database after some requests, one after the other. -/
def after (db : Database) : List Arrival → Database
  | [] => db
  | a :: rest => after (handle db a.now a.request).1 rest

/-- A request asks for an update of a stored rule, and the update is stored. -/
structure Revises (db : Database) (a : Arrival) (id : String) (u : UpdateRequest)
    (r : SavedRule) : Prop where
  asked : Endpoint.of a.request.method a.request.segments = .ok (.update id)
  read : decoded a.request.body UpdateRequest.ofValue = .ok u
  found : db.store.get? id = some r
  nodes : Store.Storable true r.nodes u.revision.nodes
  edges : Store.Storable true r.edges u.revision.edges

/-- The stores that a request can leave. -/
inductive Effect (db : Database) (a : Arrival) : Store → Prop
  | unchanged : Effect db a db.store
  /-- A valid drawing is saved. -/
  | saved {q : SaveRequest} {g : Graph} {rule : SavedRule} (clean : q.drawing.Clean)
    (graph : q.drawing.toGraph = .ok g) (valid : g.isValid = true)
    (free : db.store.get? rule.id = none) (stored : q.draft.StoredAs rule) :
    Effect db a ⟨db.store.rules ++ [rule]⟩
  | updated {id : String} {u : UpdateRequest} {r : SavedRule} (revises : Revises db a id u r) :
    Effect db a (db.store.replace id (Store.revised true a.now r u.revision))
  | removed {id : String}
    (asked : Endpoint.of a.request.method a.request.segments = .ok (.delete id)) :
    Effect db a (db.store.remove id).2

/-- A body is right when it has a content, and the content passes the check. -/
theorem decoded_eq_ok {α : Type} {body : Body} {check : Value → Checked α} {x : α} :
    decoded body check = .ok x ↔ ∃ v, body.content = .ok v ∧ check v = .ok x := by
  unfold decoded
  cases body.content with
  | error e => cases e <;> simp
  | ok v => simp [mapError_eq_ok]

theorem exists_of_decoded {α : Type} {body : Body} {check : Value → Checked α} {x : α}
    (h : decoded body check = .ok x) : ∃ v, check v = .ok x := by
  obtain ⟨v, -, hv⟩ := decoded_eq_ok.mp h
  exact ⟨v, hv⟩

/-- **All there is to know of saving.** It is refused and leaves the store alone, or it puts a rule
with a valid graph and a new id at the end and reports the rule. -/
theorem save_cases (db : Database) (now : Timestamp) (q : SaveRequest) :
    ((save db now q).1.store = db.store ∧ ∀ body, (save db now q).2 ≠ .ok (.json 200 body)) ∨
      ∃ g rule, q.drawing.toGraph = .ok g ∧ g.isValid = true ∧ q.draft.StoredAs rule ∧
        rule.id = Database.idOf db.nextId ∧ db.store.get? rule.id = none ∧
        (save db now q).1.store = ⟨db.store.rules ++ [rule]⟩ ∧
        (save db now q).2 = changedReply "Rule saved successfully" rule := by
  unfold save
  cases hgraph : graphOf q.drawing with
  | error e => exact .inl ⟨rfl, fun _ => nofun⟩
  | ok g =>
    cases hvalid : g.isValid with
    | false => exact .inl ⟨by simp [hvalid], by simp [hvalid]⟩
    | true =>
      simp only [hvalid, if_true]
      unfold Database.add
      cases hadd : db.store.add now (Option.getD none (Database.idOf db.nextId)) q.draft with
      | error e => exact .inl ⟨rfl, fun _ => nofun⟩
      | ok p =>
        obtain ⟨store, rule⟩ := p
        obtain ⟨hfree, hstored, hid, -, -, rfl⟩ := Store.add_eq_ok.mp hadd
        rw [Option.getD_none] at hid
        rw [Option.getD_none, ← hid, Store.contains_eq_false] at hfree
        exact .inr ⟨g, rule, mapError_eq_ok.mp hgraph, hvalid, hstored, hid, hfree, rfl, rfl⟩

theorem effect_save {db : Database} {a : Arrival} {q : SaveRequest} (hclean : q.drawing.Clean) :
    Effect db a (save db a.now q).1.store := by
  rcases save_cases db a.now q with
    ⟨hstore, -⟩ | ⟨g, rule, hgraph, hvalid, hstored, -, hfree, hstore, -⟩
  · rw [hstore]
    exact .unchanged
  · rw [hstore]
    exact .saved hclean hgraph hvalid hfree hstored

/-- **All there is to know of updating.** It is refused and leaves the store alone, or it puts the
revised rule in the place of the old one and reports it. -/
theorem update_cases (db : Database) (now : Timestamp) (id : String) (u : UpdateRequest) :
    (update db now id u).1.store = db.store ∨
      ∃ r, db.store.get? id = some r ∧ Store.Storable true r.nodes u.revision.nodes ∧
        Store.Storable true r.edges u.revision.edges ∧
        (update db now id u).1.store =
          db.store.replace id (Store.revised true now r u.revision) ∧
        (update db now id u).2 =
          changedReply "Rule updated successfully" (Store.revised true now r u.revision) := by
  unfold update
  rw [← u.revision_changes]
  cases hfound : db.store.get? id with
  | none =>
    rw [Store.update_of_get?_none hfound]
    exact .inl rfl
  | some r =>
    cases hupdate : db.store.update true now id u.revision.changes with
    | error e => exact .inl rfl
    | ok result =>
      obtain ⟨hnodes, hedges, rfl⟩ := (Store.update_eq_ok hfound).mp hupdate
      exact .inr ⟨r, rfl, hnodes, hedges, rfl, rfl⟩

/-- An update that is stored leaves the revised rule in the place of the old one. -/
theorem update_store {db : Database} {now : Timestamp} {id : String} {u : UpdateRequest}
    {r : SavedRule} (hfound : db.store.get? id = some r)
    (hnodes : Store.Storable true r.nodes u.revision.nodes)
    (hedges : Store.Storable true r.edges u.revision.edges) :
    (update db now id u).1.store =
      db.store.replace id (Store.revised true now r u.revision) := by
  unfold update
  rw [← u.revision_changes, (Store.update_eq_ok hfound).mpr ⟨hnodes, hedges, rfl⟩]

theorem handle_of_update {db : Database} {a : Arrival} {id : String} {u : UpdateRequest}
    (hasked : Endpoint.of a.request.method a.request.segments = .ok (.update id))
    (hread : decoded a.request.body UpdateRequest.ofValue = .ok u) :
    handle db a.now a.request = update db a.now id u := by
  simp only [handle, hasked, answer, checkedAnswer, hread]

theorem Revises.store_eq {db : Database} {a : Arrival} {id : String} {u : UpdateRequest}
    {r : SavedRule} (h : Revises db a id u r) :
    (handle db a.now a.request).1.store =
      db.store.replace id (Store.revised true a.now r u.revision) := by
  rw [handle_of_update h.asked h.read]
  exact update_store h.found h.nodes h.edges

theorem effect_update {db : Database} {a : Arrival} {id : String} {u : UpdateRequest}
    (hasked : Endpoint.of a.request.method a.request.segments = .ok (.update id))
    (hread : decoded a.request.body UpdateRequest.ofValue = .ok u) :
    Effect db a (update db a.now id u).1.store := by
  rcases update_cases db a.now id u with hstore | ⟨r, hfound, hnodes, hedges, hstore, -⟩
  · rw [hstore]
    exact .unchanged
  · rw [hstore]
    exact .updated ⟨hasked, hread, hfound, hnodes, hedges⟩

theorem effect_delete {db : Database} {a : Arrival} {id : String}
    (hasked : Endpoint.of a.request.method a.request.segments = .ok (.delete id)) :
    Effect db a (delete db id).1.store := by
  unfold delete
  cases hremove : db.store.remove id with
  | mk found store =>
    cases found with
    | false => exact .unchanged
    | true =>
      have hstore : (db.store.remove id).2 = store := congrArg Prod.snd hremove
      exact hstore ▸ .removed hasked

/-- **A request saves a valid drawing, updates a rule, removes one, or leaves the store alone.** -/
theorem handle_effect (db : Database) (a : Arrival) :
    Effect db a (handle db a.now a.request).1.store := by
  unfold handle
  cases hof : Endpoint.of a.request.method a.request.segments with
  | error e => cases e <;> exact .unchanged
  | ok endpoint =>
    cases endpoint with
    | save =>
      simp only [answer, checkedAnswer]
      cases hread : decoded a.request.body SaveRequest.ofValue with
      | error e => exact .unchanged
      | ok q =>
        obtain ⟨v, hv⟩ := exists_of_decoded hread
        exact effect_save (SaveRequest.clean_of_ofValue hv)
    | update id =>
      simp only [answer, checkedAnswer]
      cases hread : decoded a.request.body UpdateRequest.ofValue with
      | error e => exact .unchanged
      | ok u => exact effect_update hof hread
    | delete id => exact effect_delete hof
    | _ => exact .unchanged

/-! ## What a run preserves -/

/-- A request leaves drawings in the columns, whatever it was. -/
theorem Effect.holdsDrawing {db : Database} {a : Arrival} {s : Store} (h : Effect db a s)
    (hall : ∀ r ∈ db.store.rules, r.HoldsDrawing) : ∀ r ∈ s.rules, r.HoldsDrawing := by
  cases h with
  | unchanged => exact hall
  | saved clean graph valid free stored =>
    refine List.forall_mem_append.mpr ⟨hall, List.forall_mem_singleton.mpr ⟨?_, ?_⟩⟩
    · exact ⟨_, clean.nodes, stored.nodes, stored.nodes ▸ stored.nodesWritable⟩
    · exact ⟨_, clean.edges, stored.edges⟩
  | @updated id u r revises =>
    obtain ⟨v, hv⟩ := exists_of_decoded revises.read
    obtain ⟨hcleanNodes, hcleanEdges⟩ := UpdateRequest.clean_of_ofValue hv
    have hr := hall r (List.mem_of_find?_eq_some revises.found)
    intro x hx
    rcases Store.mem_replace hx with rfl | hx
    · refine ⟨Store.column_of hr.nodes revises.nodes ?_, Store.column_of hr.edges revises.edges ?_⟩
      · intro objects hobjects hwritable
        obtain ⟨ns, hns, rfl⟩ := Option.map_eq_some_iff.mp hobjects
        exact ⟨ns, hcleanNodes ns hns, UpdateRequest.tree_nodes ns, hwritable⟩
      · intro objects hobjects _
        obtain ⟨es, hes, rfl⟩ := Option.map_eq_some_iff.mp hobjects
        exact ⟨es, hcleanEdges es hes, UpdateRequest.tree_edges es⟩
    · exact hall x hx
  | removed asked => exact fun r hr => hall r (List.mem_of_mem_filter hr)

/-- **A run.** What every single request preserves, any requests preserve. -/
theorem after_of_step {P : Database → Prop}
    (hstep : ∀ (db : Database) (a : Arrival), P db → P (handle db a.now a.request).1)
    {db : Database} (h : P db) (arrivals : List Arrival) : P (after db arrivals) := by
  induction arrivals generalizing db with
  | nil => exact h
  | cons a rest ih => exact ih (hstep db a h)

/-- The columns hold drawings after any run. -/
theorem after_holdsDrawing {db : Database} (h : ∀ r ∈ db.store.rules, r.HoldsDrawing)
    (arrivals : List Arrival) : ∀ r ∈ (after db arrivals).store.rules, r.HoldsDrawing := by
  refine after_of_step (P := fun db => ∀ r ∈ db.store.rules, r.HoldsDrawing) ?_ h arrivals
  intro db a hall
  exact (handle_effect db a).holdsDrawing hall

/-- The graphs of all stored rules are valid. -/
def GraphsValid (db : Database) : Prop :=
  ∀ r ∈ db.store.rules, r.GraphValid

/-- A request is an update of nodes or edges, and what it leaves in the columns of the rule, given
trees where they were stored and kept ones elsewhere, has no valid graph. -/
def Spoils (db : Database) (a : Arrival) : Prop :=
  ∃ id u r, Revises db a id u r ∧ (u.nodes ≠ none ∨ u.edges ≠ none) ∧
    ¬ (Store.revised true a.now r u.revision).GraphValid

/-- **A step.** Every request keeps the graphs valid, but for the updates that spoil one. -/
theorem graphsValid_handle_iff {db : Database} {a : Arrival} (h : GraphsValid db) :
    GraphsValid (handle db a.now a.request).1 ↔ ¬ Spoils db a := by
  constructor
  · rintro hafter ⟨id, u, r, hrevises, -, hspoiled⟩
    have hid : (Store.revised true a.now r u.revision).id = id :=
      show r.id = id from Store.id_of_get? hrevises.found
    have hread := Store.get?_replace hrevises.found hid
    rw [← hrevises.store_eq] at hread
    exact hspoiled (hafter _ (List.mem_of_find?_eq_some hread))
  · intro hspoils
    have heffect := handle_effect db a
    unfold GraphsValid
    generalize (handle db a.now a.request).1.store = s at heffect ⊢
    cases heffect with
    | unchanged => exact h
    | saved clean graph valid free stored =>
      refine List.forall_mem_append.mpr ⟨h, List.forall_mem_singleton.mpr ?_⟩
      exact SavedRule.graphValid_of_kept clean stored.nodes stored.edges graph valid
    | @updated id u r revises =>
      -- Every rule but the revised one is as it was.
      have hr := h r (List.mem_of_find?_eq_some revises.found)
      intro x hx
      rcases Store.mem_replace hx with rfl | hx
      · by_cases hgiven : u.nodes = none ∧ u.edges = none
        · -- Without nodes and edges both columns are the kept ones.
          refine SavedRule.graphValid_congr ?_ ?_ hr
          · simp [Store.revised, UpdateRequest.revision, hgiven.1, Store.column]
          · simp [Store.revised, UpdateRequest.revision, hgiven.2, Store.column]
        · by_contra hspoiled
          exact hspoils ⟨id, u, r, revises, not_and_or.mp hgiven, hspoiled⟩
      · exact h x hx
    | removed asked => exact fun r hr => h r (List.mem_of_mem_filter hr)

theorem after_concat (db : Database) (before : List Arrival) (a : Arrival) :
    after db (before ++ [a]) = (handle (after db before) a.now a.request).1 := by
  induction before generalizing db with
  | nil => rfl
  | cons b rest ih => exact ih _

/-- **When every saved graph is valid.** After any requests every stored rule has a graph. The
graphs are valid after each request of a run exactly when none of the requests is an update that
spoils one: no other request, and no update that keeps nodes and edges, ever does. -/
theorem stored_graphs_valid_iff (arrivals : List Arrival) :
    (∀ r ∈ (after .empty arrivals).store.rules,
      ∃ d g, r.drawing = .ok d ∧ d.toGraph = .ok g) ∧
    ((∀ before, before <+: arrivals → GraphsValid (after .empty before)) ↔
      ∀ before a, before ++ [a] <+: arrivals → ¬ Spoils (after .empty before) a) := by
  refine ⟨fun r hr => ?_, ?_, ?_⟩
  · exact (after_holdsDrawing (fun _ h => absurd h List.not_mem_nil) arrivals r hr).graph
  · intro hvalid before a hprefix
    have hbefore := hvalid before ((List.prefix_append before [a]).trans hprefix)
    have hafter := hvalid _ hprefix
    rw [after_concat] at hafter
    exact (graphsValid_handle_iff hbefore).mp hafter
  · intro hspoils before
    -- Along the run, from the empty database on.
    induction before using List.reverseRec with
    | nil => exact fun _ r hr => absurd hr List.not_mem_nil
    | append_singleton before a ih =>
      intro hprefix
      have hbefore := ih ((List.prefix_append before [a]).trans hprefix)
      rw [after_concat]
      exact (graphsValid_handle_iff hbefore).mpr (hspoils before a hprefix)

/-- A request that saves a rule with one condition and one action. -/
def saving : Arrival where
  now := ⟨0⟩
  request := ⟨"POST", "/api/rules/", .tree (.object [
    ("nodes", .list [
      .object [("id", .text "r"), ("type", .text "rule"), ("data", .object [("name", .text "R")])],
      .object [("id", .text "c"), ("type", .text "condition"), ("data", .object
        [("field", .text "a"), ("operator", .text "=="), ("value", .text "1")])],
      .object [("id", .text "x"), ("type", .text "action"), ("data", .object
        [("type", .text "deleteFact"), ("target", .text "a"), ("value", .text "1")])]]),
    ("edges", .list [
      .object [("source", .text "r"), ("target", .text "c")],
      .object [("source", .text "r"), ("target", .text "x")]])])⟩

/-- A request that takes all nodes from the first rule. -/
def emptying : Arrival where
  now := ⟨1⟩
  request := ⟨"PUT", "/api/rules/00000000000000000000000000000001",
    .tree (.object [("nodes", .list [])])⟩

/-- **An invalid graph can be stored.** A valid graph is saved, and the update that takes its nodes
away is stored without a check: the rule that is kept has edges and no nodes. -/
theorem update_stores_invalid_graph :
    GraphsValid (after .empty [saving]) ∧ ¬ GraphsValid (after .empty [saving, emptying]) := by
  constructor
  · refine (graphsValid_handle_iff fun r hr => absurd hr List.not_mem_nil).mpr ?_
    rintro ⟨id, u, r, hrevises, -⟩
    exact nomatch (Request.endpoint_save _).symm.trans hrevises.asked
  · intro hvalid
    have hstored : ((after .empty [saving, emptying]).store.rules.map fun r => (r.nodes, r.edges)) =
        [(.list [], .list [.object [("source", .text "r"), ("target", .text "c")],
          .object [("source", .text "r"), ("target", .text "x")]])] := by
      with_unfolding_all rfl
    -- The graph that is read has no nodes, so it lacks a rule to begin with.
    obtain ⟨r, hr, hcolumns⟩ := List.mem_map.mp (hstored ▸ List.mem_singleton_self _)
    obtain ⟨hnodes, hedges⟩ := Prod.mk.inj hcolumns
    obtain ⟨d, g, hd, hg, hg'⟩ := hvalid r hr
    unfold SavedRule.drawing at hd
    rw [hnodes, hedges] at hd
    cases hd
    cases hg
    exact absurd hg' (by decide)

end Service

end Rulebook
