import Rulebook.Proofs.Failing
import Rulebook.Proofs.Linking
import Rulebook.Proofs.Records
import Rulebook.Proofs.Restored
import Rulebook.Proofs.SavedRuns

/-!
# Saved drawings come back

A rule that was saved is seen again in the reply to saving, when it is asked for, and in the list of
all rules. All three show what is stored of it (`Service.reports_of_found`), so the question is what
storing and sending do to a drawing: nodes get data if they had none, edges lose their nulls, and
null is sent for every number that JSON does not have. Nothing else is lost or added, so a drawing
comes back as it was exactly when it is free of the three (`Service.saved_drawing_returns_iff`).
-/

set_option autoImplicit false

namespace Rulebook

/-! ## Drawings -/

namespace Value

variable {α : Type} {check : Value → Checked α} {toValue : α → Value} {items : List Value}
  {as : List α}

/-- A list that is kept item by item comes back when each item does. -/
theorem list_returns_iff {P : Value → Prop}
    (hread : List.Forall₂ (fun item a => check item = .ok a) items as)
    (hitem : ∀ item ∈ items, ∀ a, check item = .ok a →
      ((toValue a).sendable.Alike item ↔ P item)) :
    (list (as.map toValue)).sendable.Alike (list items) ↔ ∀ item ∈ items, P item := by
  rw [sendable, sendableItems_eq_map, alike_list_iff, List.forall₂_map_left_iff,
    List.forall₂_map_left_iff]
  induction hread with
  | nil => simp
  | cons hfirst _ ih =>
    obtain ⟨hitem, hitems⟩ := List.forall_mem_cons.mp hitem
    rw [List.forall₂_cons, List.forall_mem_cons, hitem _ hfirst, ih hitems]

end Value

/-- A list that may be left out was there if anything was read from it. -/
theorem Members.exists_list_of_optional {α : Type} {check : Value → Checked α} {ms : Members}
    {key : String} {as : List α} (h : ms.optional key [] (Value.asListOf check) = .ok as)
    (hne : as ≠ []) : ∃ items, ms.get? key = some (.list items) ∧
      List.Forall₂ (fun item a => check item = .ok a) items as := by
  rcases optional_eq_ok.mp h with ⟨v, hv, hread⟩ | ⟨-, rfl⟩
  · obtain ⟨items, rfl, hitems⟩ := Value.asListOf_eq_ok.mp hread
    exact ⟨items, hv, hitems⟩
  · exact absurd rfl hne

namespace Drawing

/-- A valid drawing has nodes and edges, so it was sent with both. -/
theorem exists_sent_of_isValid {ms : Members} {d : Drawing} {g : Graph} (h : ofMembers ms = .ok d)
    (hgraph : d.toGraph = .ok g) (hvalid : g.isValid = true) :
    ∃ nodes edges, ms.get? "nodes" = some (.list nodes) ∧ ms.get? "edges" = some (.list edges) ∧
      List.Forall₂ (fun v n => DrawnNode.ofValue v = .ok n) nodes d.nodes ∧
      List.Forall₂ (fun v e => DrawnEdge.ofValue v = .ok e) edges d.edges := by
  have hcomplete := Graph.isValid_iff_complete.mp hvalid
  obtain ⟨ns, hns, hg⟩ := bind_eq_ok.mp hgraph
  obtain rfl := Except.ok.inj hg
  obtain ⟨⟨nodes, edges⟩, hboth, rfl⟩ := map_eq_ok.mp h
  obtain ⟨hnodes, hedges⟩ := Checked.both_eq_ok.mp hboth
  have hsomeNodes : nodes ≠ [] := by
    rintro rfl
    obtain rfl := Except.ok.inj hns
    exact hcomplete.hasRule rfl
  have hsomeEdges : edges ≠ [] := by
    rintro rfl
    obtain ⟨e, he, -⟩ := hcomplete.toCondition
    exact absurd he List.not_mem_nil
  obtain ⟨nodeItems, hnodeItems, hreadNodes⟩ := Members.exists_list_of_optional hnodes hsomeNodes
  obtain ⟨edgeItems, hedgeItems, hreadEdges⟩ := Members.exists_list_of_optional hedges hsomeEdges
  exact ⟨nodeItems, edgeItems, hnodeItems, hedgeItems, hreadNodes, hreadEdges⟩

end Drawing

/-- Nodes and edges as they are sent are free of all that storing and sending change. -/
structure Returnable (nodes edges : List Value) : Prop where
  nodes : ∀ v ∈ nodes, v.IsJson ∧ v.below? (.key "data") ≠ none
  edges : ∀ v ∈ edges, v.IsJson ∧ ∀ key, v.below? (.key key) ≠ some .null

/-- It is enough to look through the members, and at every number. -/
theorem returnable_of_all {nodes edges : List Value}
    (hnodes : ∀ v ∈ nodes, v.isSendable = true ∧ v.below? (.key "data") ≠ none)
    (hedges : ∀ v ∈ edges, v.isSendable = true ∧ ∀ m ∈ v.members?.getD [], m.2 ≠ .null) :
    Returnable nodes edges := by
  constructor
  · intro v hv
    exact ⟨Value.isJson_of_isSendable (hnodes v hv).1, (hnodes v hv).2⟩
  · intro v hv
    refine ⟨Value.isJson_of_isSendable (hedges v hv).1, ?_⟩
    intro key hnull
    cases v with
    | object ms =>
      obtain ⟨m, hm, hvalue⟩ := Option.map_eq_some_iff.mp hnull
      exact (hedges _ hv).2 m (List.mem_of_find?_eq_some hm) hvalue
    | _ => exact nomatch hnull

/-- A rule as it is shown has given nodes and edges. -/
def Value.Shows (shown : Value) (nodes edges : List Value) : Prop :=
  (shown.child "nodes").Alike (.list nodes) ∧ (shown.child "edges").Alike (.list edges)

/-- **When a drawing comes back** from a rule that it is kept in. -/
theorem SavedRule.shows_iff {r : SavedRule} {d : Drawing} {nodes edges : List Value}
    (hnodes : r.nodes = .list (d.nodes.map DrawnNode.toValue))
    (hedges : r.edges = .list (d.edges.map DrawnEdge.toValue))
    (hreadNodes : List.Forall₂ (fun v n => DrawnNode.ofValue v = .ok n) nodes d.nodes)
    (hreadEdges : List.Forall₂ (fun v e => DrawnEdge.ofValue v = .ok e) edges d.edges)
    (hdistinct : ∀ ms, .object ms ∈ edges → (ms.map Prod.fst).Nodup) :
    r.toValue.sendable.Shows nodes edges ↔ Returnable nodes edges := by
  have hshownNodes : r.toValue.sendable.child "nodes" = r.nodes.sendable :=
    Value.child_sendable r.toValue "nodes"
  have hshownEdges : r.toValue.sendable.child "edges" = r.edges.sendable :=
    Value.child_sendable r.toValue "edges"
  unfold Value.Shows
  rw [hshownNodes, hshownEdges, hnodes, hedges,
    Value.list_returns_iff hreadNodes fun _ _ _ h => DrawnNode.returns_iff h,
    Value.list_returns_iff hreadEdges fun v hv _ h => DrawnEdge.returns_iff h ?_]
  · exact ⟨fun ⟨hn, he⟩ => ⟨hn, he⟩, fun h => ⟨h.nodes, h.edges⟩⟩
  · rintro ms rfl
    exact hdistinct ms hv

namespace Service

/-! ## Where rules are shown -/

/-- The store holds the records of a map, so no two rules in it have the same id. -/
def Distinct (db : Database) : Prop :=
  ∃ m, db.store.Holds m

/-- **A step.** Whatever a request does to the store, it holds the records of some map. -/
theorem Effect.holds {db : Database} {a : Arrival} {s : Store} {m : Records} (h : Effect db a s)
    (hm : db.store.Holds m) : ∃ m', s.Holds m' := by
  cases h with
  | unchanged => exact ⟨m, hm⟩
  | saved clean graph valid free stored => exact ⟨_, hm.concat free⟩
  | @updated id u r revises =>
    have hid : (Store.revised true a.now r u.revision).id = id :=
      show r.id = id from Store.id_of_get? revises.found
    exact ⟨_, hm.replace revises.found hid⟩
  | removed asked => exact ⟨_, hm.remove _⟩

theorem Distinct.handle {db : Database} (h : Distinct db) (a : Arrival) :
    Distinct (handle db a.now a.request).1 :=
  (handle_effect db a).holds h.choose_spec

theorem Distinct.after {db : Database} (h : Distinct db) (arrivals : List Arrival) :
    Distinct (after db arrivals) :=
  after_of_step (fun _ a hdistinct => hdistinct.handle a) h arrivals

/-- All rules are listed, if their number can be written out. -/
theorem list_reply {db : Database} {a : Arrival} (hasks : a.Asks .list) (h : AllWritable db)
    (hcount : db.store.rules.length < digitBound) :
    (handle db a.now a.request).2 = .ok (.json 200 (Value.object
      [("rules", .list (db.store.list.map SavedRule.toValue)),
        ("count", .int db.store.list.length)]).sendable) := by
  have hperm : db.store.list.Perm db.store.rules :=
    List.mergeSort_perm db.store.rules Store.listedBefore
  have hrules : Value.allWritable (db.store.list.map SavedRule.toValue) = true := by
    rw [Value.allWritable_iff]
    intro v hv
    obtain ⟨r, hr, rfl⟩ := List.mem_map.mp hv
    exact (h r (hperm.mem_iff.mp hr)).toValue
  rw [answer_of_asks hasks]
  apply Reply.send_of_isWritable
  simp [Value.isWritable, Value.allMembersWritable, hrules, hperm.length_eq, hcount]

/-- What is answered about the rule with an id has a property: the rule itself when it is asked for,
and in the list of all rules, as long as they can be counted, the one item with the id. -/
structure Reports (db : Database) (id : String) (P : Value → Prop) : Prop where
  fetched : ∀ a : Arrival, a.Asks (.fetch id) →
    ∃ shown, (handle db a.now a.request).2 = .ok (.json 200 shown) ∧ P shown
  listed : ∀ a : Arrival, a.Asks .list → db.store.rules.length < digitBound →
    ∃ listing items, (handle db a.now a.request).2 = .ok (.json 200 listing) ∧
      listing.child "rules" = .list items ∧ (∃ shown ∈ items, shown.child "id" = .text id) ∧
      ∀ shown ∈ items, shown.child "id" = .text id → P shown

/-- What is stored under an id is what is shown. -/
theorem reports_of_found {db : Database} {id : String} {r : SavedRule} {P : Value → Prop}
    (hfound : db.store.get? id = some r) (hdistinct : Distinct db) (hwritable : AllWritable db)
    (h : P r.toValue.sendable) : Reports db id P := by
  obtain ⟨m, hm⟩ := hdistinct
  have hr : r ∈ db.store.rules := List.mem_of_find?_eq_some hfound
  constructor
  · intro a ha
    refine ⟨r.toValue.sendable, ?_, h⟩
    rw [answer_of_asks ha]
    simp only [answer, withStored, hfound]
    exact Reply.send_of_isWritable (hwritable r hr).toValue
  · intro a ha hcount
    have hmem : ∀ x, x ∈ db.store.list ↔ x ∈ db.store.rules := fun x => List.mem_mergeSort
    have hshownId : ∀ x : SavedRule, x.toValue.sendable.child "id" = .text x.id :=
      fun x => Value.child_sendable x.toValue "id"
    have hitems : (Value.object [("rules", .list (db.store.list.map SavedRule.toValue)),
        ("count", .int db.store.list.length)]).sendable.child "rules" =
          .list (db.store.list.map fun x => x.toValue.sendable) := by
      rw [Value.child_sendable]
      show Value.list (Value.sendableItems (db.store.list.map SavedRule.toValue)) = _
      rw [Value.sendableItems_eq_map, List.map_map]
      rfl
    refine ⟨_, _, list_reply ha hwritable hcount, hitems, ?_, ?_⟩
    · refine ⟨_, List.mem_map_of_mem ((hmem r).mpr hr), ?_⟩
      rw [hshownId, Store.id_of_get? hfound]
    · intro shown hshown hid
      obtain ⟨x, hx, rfl⟩ := List.mem_map.mp hshown
      rw [hshownId] at hid
      have hx' : db.store.get? x.id = some x :=
        (Store.mem_iff_get? hm.distinct).mp ((hmem x).mp hx)
      rw [Value.text.inj hid, hfound] at hx'
      exact Option.some.inj hx' ▸ h

/-- **When a saved drawing comes back.** A request to save that is answered with success has sent
nodes and edges, in which ids, types, sources and targets are all there. They come back as they were
sent exactly when every node has data, no edge has a null and JSON has all numbers: in the answer to
the request and, until the rule is updated or deleted, whenever the rule is asked for and in every
list of the rules. Of edges it is assumed that they have no key twice, as is so in JSON. -/
theorem saved_drawing_returns_iff {earlier : List Arrival} {a : Arrival} {body : Value}
    (hasks : a.Asks .save)
    (hsaved : (handle (after .empty earlier) a.now a.request).2 = .ok (.json 200 body)) :
    ∃ (ms : Members) (nodes edges : List Value) (id : String),
      a.request.body.content = .ok (.object ms) ∧ ms.get? "nodes" = some (.list nodes) ∧
      ms.get? "edges" = some (.list edges) ∧ (body.child "rule").child "id" = .text id ∧
      (∀ now content, Arrival.Asks ⟨now, "GET", Request.rulePath id, content⟩ (.fetch id)) ∧
      ((∀ ms, .object ms ∈ edges → (ms.map Prod.fst).Nodup) →
        ((body.child "rule").Shows nodes edges ↔ Returnable nodes edges) ∧
        ∀ later, Spared (handle (after .empty earlier) a.now a.request).1 id later →
          Reports (after (handle (after .empty earlier) a.now a.request).1 later) id
            fun shown => shown.Shows nodes edges ↔ Returnable nodes edges) := by
  have hids : Distinct (handle (after .empty earlier) a.now a.request).1 :=
    (Distinct.after ⟨∅, Store.holds_empty⟩ earlier).handle a
  have hwritable : AllWritable (handle (after .empty earlier) a.now a.request).1 :=
    (after_writable earlier).handle a
  obtain ⟨ms, q, hcontent, hdrawing, hhandle⟩ := exists_save_of_success hasks hsaved
  rw [hhandle] at hsaved hids hwritable ⊢
  obtain ⟨g, rule, hgraph, hvalid, hstored, hid, hfree, hstore, hreply⟩ := save_success hsaved
  obtain ⟨nodes, edges, hnodes, hedges, hreadNodes, hreadEdges⟩ :=
    Drawing.exists_sent_of_isValid hdrawing hgraph hvalid
  refine ⟨ms, nodes, edges, rule.id, hcontent, hnodes, hedges, id_of_changedReply hreply, ?_, ?_⟩
  · intro now content
    rw [hid]
    exact Request.endpoint_rulePath _ content
  · intro hdistinct
    have hshows : rule.toValue.sendable.Shows nodes edges ↔ Returnable nodes edges :=
      SavedRule.shows_iff hstored.nodes hstored.edges hreadNodes hreadEdges hdistinct
    constructor
    · rw [changedReply_of_writable _ (SavedRule.writable_of_storedAs hstored)] at hreply
      obtain ⟨-, rfl⟩ := Reply.json.inj (Except.ok.inj hreply)
      rw [Value.child_sendable]
      exact hshows
    · intro later hspared
      have hfound : (save (after .empty earlier) a.now q).1.store.get? rule.id = some rule := by
        rw [hstore, Store.get?_concat hfree, if_pos rfl]
      exact reports_of_found (get?_after hfound hspared) (hids.after later)
        (hwritable.after later) hshows

/-- The nodes of a rule with one condition and one action. -/
def labelledNodes : List Value := [
  .object [("id", .text "r"), ("type", .text "rule"), ("data", .object [("name", .text "R")])],
  .object [("id", .text "c"), ("type", .text "condition"), ("data", .object
    [("field", .text "a"), ("operator", .text "=="), ("value", .text "1")])],
  .object [("id", .text "x"), ("type", .text "action"), ("data", .object
    [("type", .text "deleteFact"), ("target", .text "a"), ("value", .text "1")])]]

/-- The edges of the rule, of which the first has a label. -/
def labelledEdges (label : Value) : List Value := [
  .object [("source", .text "r"), ("target", .text "c"), ("label", label)],
  .object [("source", .text "r"), ("target", .text "x")]]

/-- A request that saves the rule. -/
def labelling (label : Value) : Arrival where
  now := ⟨0⟩
  request := ⟨"POST", "/api/rules/", .tree (.object
    [("nodes", .list labelledNodes), ("edges", .list (labelledEdges label))])⟩

theorem labelling_asks (label : Value) : (labelling label).Asks .save :=
  Request.endpoint_save _

/-- With a label that is no null the rule comes back as it was sent, also when it is asked for after
the same has been saved once more. -/
theorem saved_drawing_returns_iff_labelling :
    let a := labelling (.text "adult")
    a.Asks .save ∧ ∃ body shown,
      (handle (after .empty []) a.now a.request).2 = .ok (.json 200 body) ∧
      (body.child "rule").Shows labelledNodes (labelledEdges (.text "adult")) ∧
      (handle (after .empty [a, a]) ⟨2⟩
        ⟨"GET", Request.rulePath "00000000000000000000000000000001", .nothing⟩).2 =
          .ok (.json 200 shown) ∧
      shown.Shows labelledNodes (labelledEdges (.text "adult")) := by
  intro a
  have hasks : a.Asks .save := labelling_asks _
  have hsuccess : ∃ body, (handle (after .empty []) a.now a.request).2 = .ok (.json 200 body) ∧
      decide ((body.child "rule").child "id" = .text "00000000000000000000000000000001") = true :=
    exists_success _ (by with_unfolding_all decide)
  obtain ⟨body, hsaved, hfirst⟩ := hsuccess
  obtain ⟨ms, nodes, edges, id, hcontent, hnodes, hedges, hid, hpath, hshows⟩ :=
    saved_drawing_returns_iff hasks hsaved
  obtain rfl := Value.text.inj (hid.symm.trans (of_decide_eq_true hfirst))
  cases hcontent
  rw [Members.get?_cons, if_pos rfl] at hnodes
  rw [Members.get?_cons, if_neg (by decide), Members.get?_cons, if_pos rfl] at hedges
  obtain rfl := Value.list.inj (Option.some.inj hnodes)
  obtain rfl := Value.list.inj (Option.some.inj hedges)
  have hdistinct : ∀ ms, .object ms ∈ labelledEdges (.text "adult") → (ms.map Prod.fst).Nodup := by
    intro ms hms
    simp only [labelledEdges, List.mem_cons, Value.object.injEq, List.not_mem_nil, or_false] at hms
    rcases hms with rfl | rfl <;> decide
  have hreturnable : Returnable labelledNodes (labelledEdges (.text "adult")) :=
    returnable_of_all (by decide) (by decide)
  have hspared : Spared (handle (after .empty []) a.now a.request).1
      "00000000000000000000000000000001" [a] := by
    refine ⟨⟨fun h => ?_, fun u r h => ?_⟩, trivial⟩
    · exact nomatch hasks.symm.trans h
    · exact nomatch hasks.symm.trans h.asked
  obtain ⟨hnow, hlater⟩ := hshows hdistinct
  obtain ⟨shown, hreply, hiff⟩ :=
    (hlater [a] hspared).fetched ⟨⟨2⟩, "GET", _, .nothing⟩ (hpath ⟨2⟩ .nothing)
  exact ⟨hasks, body, shown, hsaved, hnow.mpr hreturnable, hreply, hiff.mpr hreturnable⟩

/-- **A null of an edge is lost.** The rule is sent with null for the label, with every id, type,
data, source and target in its place. The rule that is reported has no label on the edge. -/
theorem labelled_edge_loses_null :
    (labelling .null).Asks .save ∧
      (∀ v ∈ labelledNodes, ∀ key ∈ ["id", "type", "data"], v.below? (.key key) ≠ none) ∧
      (∀ v ∈ labelledEdges .null, ∀ key ∈ ["source", "target"], v.below? (.key key) ≠ none) ∧
      ∃ body, (handle .empty (labelling .null).now (labelling .null).request).2 =
          .ok (.json 200 body) ∧
        ((body.child "rule").child "edges").shapeAt? [.index 0, .key "label"] = none ∧
        (Value.list (labelledEdges .null)).shapeAt? [.index 0, .key "label"] = some .null ∧
        ¬ (body.child "rule").Shows labelledNodes (labelledEdges .null) := by
  have hsuccess : ∃ body, (handle .empty (labelling .null).now (labelling .null).request).2 =
      .ok (.json 200 body) ∧ decide
        (((body.child "rule").child "edges").shapeAt? [.index 0, .key "label"] = none) = true :=
    exists_success _ (by with_unfolding_all decide)
  obtain ⟨body, hsaved, hlost⟩ := hsuccess
  have hlost := of_decide_eq_true hlost
  have hsent : (Value.list (labelledEdges .null)).shapeAt? [.index 0, .key "label"] =
      some .null := rfl
  refine ⟨labelling_asks .null, by decide, by decide, body, hsaved, hlost, hsent, ?_⟩
  rintro ⟨-, hedges⟩
  exact nomatch hlost.symm.trans ((hedges _).trans hsent)

end Service

end Rulebook
