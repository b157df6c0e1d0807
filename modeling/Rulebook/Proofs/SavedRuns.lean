import Rulebook.Proofs.Routing
import Rulebook.Proofs.SavedGraphs
import Rulebook.Proofs.Sent

/-!
# Saved rules run as they were sent

A rule that was saved can be downloaded and run later. What is kept of it is not what was sent:
nodes have got data if they had none, edges have lost their nulls, and it is read anew each time.
Still its graph is the graph that was sent (`SavedRule.draws_of_kept`), and source and runs depend
on nothing else. Requests that do not touch the rule leave it in the store (`Service.get?_handle`),
so all this stays true until one of them does.
-/

set_option autoImplicit false

namespace Rulebook

/-! ## The graph that is kept -/

namespace SavedRule

/-- What is stored of a rule has a given graph. -/
def Draws (r : SavedRule) (g : Graph) : Prop :=
  ∃ d, r.drawing = .ok d ∧ d.toGraph = .ok g

/-- **What is kept of a drawing has the graph of the drawing.** -/
theorem draws_of_kept {r : SavedRule} {d : Drawing} {g : Graph} (hclean : d.Clean)
    (hnodes : r.nodes = .list (d.nodes.map DrawnNode.toValue))
    (hedges : r.edges = .list (d.edges.map DrawnEdge.toValue)) (hgraph : d.toGraph = .ok g) :
    r.Draws g :=
  ⟨d.pruned, drawing_of_kept hclean hnodes hedges, (Drawing.toGraph_pruned d).trans hgraph⟩

end SavedRule

/-- A drawing to be saved is read from the members that a drawing to be run is read from. -/
theorem SaveRequest.ofMembers_of_ofValue {v : Value} {q : SaveRequest} (h : ofValue v = .ok q) :
    ∃ ms, v = .object ms ∧ Drawing.ofMembers ms = .ok q.drawing := by
  obtain ⟨ms, rfl, hms⟩ := Value.exists_of_record h
  obtain ⟨⟨drawing, name, description⟩, hboth, rfl⟩ := map_eq_ok.mp hms
  exact ⟨ms, rfl, (Checked.both_eq_ok.mp hboth).1⟩

/-- Only what is under two keys counts for a drawing. -/
theorem Drawing.ofMembers_congr {ms ns : Members} (hnodes : ns.get? "nodes" = ms.get? "nodes")
    (hedges : ns.get? "edges" = ms.get? "edges") : ofMembers ns = ofMembers ms := by
  unfold ofMembers Members.optional
  rw [hnodes, hedges]

namespace Service

/-! ## Requests that leave a rule alone -/

/-- A request is about an endpoint. -/
def Arrival.Asks (a : Arrival) (e : Endpoint) : Prop :=
  Endpoint.of a.request.method a.request.segments = .ok e

/-- A request neither deletes the rule with an id nor makes an update of it that is stored. -/
structure Spares (db : Database) (id : String) (a : Arrival) : Prop where
  kept : ¬ a.Asks (.delete id)
  unrevised : ∀ u r, ¬ Revises db a id u r

/-- None of some requests, one after the other, touches the rule with an id. -/
def Spared (db : Database) (id : String) : List Arrival → Prop
  | [] => True
  | a :: rest => Spares db id a ∧ Spared (handle db a.now a.request).1 id rest

/-- **A step.** A rule stays where it is unless a request touches it. -/
theorem get?_handle {db : Database} {id : String} {r : SavedRule} {a : Arrival}
    (h : db.store.get? id = some r) (hspares : Spares db id a) :
    (handle db a.now a.request).1.store.get? id = some r := by
  have heffect := handle_effect db a
  generalize (handle db a.now a.request).1.store = s at heffect ⊢
  cases heffect with
  | unchanged => exact h
  | saved clean graph valid free stored =>
    rw [Store.get?_concat free, if_neg]
    · exact h
    · rintro rfl
      exact nomatch h.symm.trans free
  | @updated other u old revises =>
    have hne : id ≠ other := by
      rintro rfl
      exact hspares.unrevised u old revises
    have hid : (Store.revised true a.now old u.revision).id = other :=
      show old.id = other from Store.id_of_get? revises.found
    rw [Store.get?_replace_eq revises.found hid, if_neg hne, h]
  | @removed other asked =>
    have hne : id ≠ other := by
      rintro rfl
      exact hspares.kept asked
    rw [Store.get?_remove, if_neg hne, h]

/-- And after a run. -/
theorem get?_after {db : Database} {id : String} {r : SavedRule} {later : List Arrival}
    (h : db.store.get? id = some r) (hspared : Spared db id later) :
    (after db later).store.get? id = some r := by
  induction later generalizing db with
  | nil => exact h
  | cons a rest ih => exact ih (get?_handle h hspared.1) hspared.2

/-! ## Saving -/

theorem answer_of_asks {db : Database} {a : Arrival} {e : Endpoint} (h : a.Asks e) :
    handle db a.now a.request = answer db a.now a.request.body e := by
  unfold handle
  rw [show Endpoint.of a.request.method a.request.segments = .ok e from h]

/-- What is wrong with a body is not answered with success. -/
theorem decoded_ne_success {α : Type} {body : Body} {check : Value → Checked α}
    {answer : Except ServiceError Reply} (h : decoded body check = .error answer) (v : Value) :
    answer ≠ .ok (.json 200 v) := by
  have hfaulty : ∀ faults, Reply.faulty faults ≠ .ok (.json 200 v) := by
    intro faults
    unfold Reply.faulty
    split_ifs <;> simp
  unfold decoded at h
  cases hcontent : body.content with
  | error e =>
    rw [hcontent] at h
    cases e with
    | fault f =>
      obtain rfl := Except.error.inj h
      exact hfaulty _
    | unreadable =>
      obtain rfl := Except.error.inj h
      simp [Reply.detail]
  | ok content =>
    rw [hcontent] at h
    cases hchecked : check content with
    | ok x => simp [hchecked, Except.mapError] at h
    | error faults =>
      simp only [hchecked, Except.mapError] at h
      obtain rfl := Except.error.inj h
      exact hfaulty _

/-- A rule is reported with its id. -/
theorem id_of_changedReply {message : String} {r : SavedRule} {status : Nat} {body : Value}
    (h : changedReply message r = .ok (.json status body)) :
    (body.child "rule").child "id" = .text r.id := by
  unfold changedReply Reply.send at h
  split_ifs at h with hwritable
  obtain ⟨-, rfl⟩ := Reply.json.inj (Except.ok.inj h)
  rw [Value.child_sendable, Value.child_sendable]
  rfl

/-- What a reply with success has to show, checked by computing. -/
theorem exists_success {reply : Except ServiceError Reply} (check : Value → Bool)
    (h : (match reply with
      | .ok (.json 200 body) => check body
      | _ => false) = true) : ∃ body, reply = .ok (.json 200 body) ∧ check body = true := by
  split at h
  · exact ⟨_, rfl, h⟩
  · exact nomatch h

/-- A request to save that is answered with success was read, and the answer is that of saving. -/
theorem exists_save_of_success {db : Database} {a : Arrival} {body : Value} (hasks : a.Asks .save)
    (h : (handle db a.now a.request).2 = .ok (.json 200 body)) :
    ∃ ms q, a.request.body.content = .ok (.object ms) ∧ Drawing.ofMembers ms = .ok q.drawing ∧
      handle db a.now a.request = save db a.now q := by
  have hanswer : handle db a.now a.request =
      checkedAnswer db a.request.body SaveRequest.ofValue (save db a.now) := answer_of_asks hasks
  rw [hanswer] at h ⊢
  unfold checkedAnswer at h ⊢
  cases hread : decoded a.request.body SaveRequest.ofValue with
  | error reply =>
    rw [hread] at h
    exact absurd h (decoded_ne_success hread body)
  | ok q =>
    obtain ⟨v, hcontent, hv⟩ := decoded_eq_ok.mp hread
    obtain ⟨ms, rfl, hdrawing⟩ := SaveRequest.ofMembers_of_ofValue hv
    exact ⟨ms, q, hcontent, hdrawing, rfl⟩

/-- What is saved with success is a drawing with a valid graph. It is stored as a rule with a new id,
and this rule is reported. -/
theorem save_success {db : Database} {now : Timestamp} {q : SaveRequest} {body : Value}
    (h : (save db now q).2 = .ok (.json 200 body)) :
    ∃ g rule, q.drawing.toGraph = .ok g ∧ g.isValid = true ∧ q.draft.StoredAs rule ∧
      rule.id = Database.idOf db.nextId ∧ db.store.get? rule.id = none ∧
      (save db now q).1.store = ⟨db.store.rules ++ [rule]⟩ ∧
      changedReply "Rule saved successfully" rule = .ok (.json 200 body) := by
  rcases save_cases db now q with
    ⟨-, hrefused⟩ | ⟨g, rule, hgraph, hvalid, hstored, hid, hfree, hstore, hreply⟩
  · exact absurd h (hrefused body)
  · exact ⟨g, rule, hgraph, hvalid, hstored, hid, hfree, hstore, hreply.symm.trans h⟩

/-- The rule is found under the id that is reported, with the columns that were drafted. -/
theorem save_stored {db : Database} {now : Timestamp} {q : SaveRequest} {body : Value}
    (h : (save db now q).2 = .ok (.json 200 body)) :
    ∃ g rule, q.drawing.toGraph = .ok g ∧ rule.id = Database.idOf db.nextId ∧
      (body.child "rule").child "id" = .text rule.id ∧
      (save db now q).1.store.get? rule.id = some rule ∧
      rule.nodes = q.draft.nodes ∧ rule.edges = q.draft.edges := by
  obtain ⟨g, rule, hgraph, -, hstored, hid, hfree, hstore, hreply⟩ := save_success h
  have hfound : (save db now q).1.store.get? rule.id = some rule := by
    rw [hstore, Store.get?_concat hfree, if_pos rfl]
  exact ⟨g, rule, hgraph, hid, id_of_changedReply hreply, hfound, hstored.nodes, hstored.edges⟩

/-! ## Running -/

section Running

variable {db : Database} {id : String} {r : SavedRule} {g : Graph} {a : Arrival}

/-- The source of a stored rule is the source of the graph that is stored. -/
theorem source_of_draws (hfound : db.store.get? id = some r) (hdraws : r.Draws g)
    (hasks : a.Asks (.source id)) :
    (handle db a.now a.request).2 =
      .ok (.file (Drl.fileName defaultFileName (some r.name)) (Drl.generate g.link)) := by
  obtain ⟨d, hd, hg⟩ := hdraws
  have hstored : storedDrawing r = .ok d := mapError_eq_ok.mpr hd
  have hsource : source d = .ok (Drl.generate g.link) :=
    bind_eq_ok.mpr ⟨g, mapError_eq_ok.mpr hg, rfl⟩
  rw [answer_of_asks hasks]
  simp only [answer, withStored, hfound]
  exact bind_eq_ok.mpr ⟨d, hstored, bind_eq_ok.mpr ⟨_, hsource, rfl⟩⟩

/-- What running a drawing comes to is a matter of its graph. -/
theorem execute_congr {d d' : Drawing} (h : d.toGraph = d'.toGraph) (input : Value) :
    execute d input = execute d' input := by
  unfold execute graphOf
  rw [h]

/-- A stored rule is run as the graph that is stored. -/
theorem executeSaved_of_draws {ms : Members} (hfound : db.store.get? id = some r)
    {d d' : Drawing} (hd : r.drawing = .ok d) (hgraph : d.toGraph = d'.toGraph)
    (hasks : a.Asks (.executeSaved id)) (hbody : a.request.body.content = .ok (.object ms)) :
    (handle db a.now a.request).2 = execute d' (inputOf ms) := by
  have hdecoded : decoded a.request.body inputOnly = .ok (inputOf ms) :=
    decoded_eq_ok.mpr ⟨_, hbody, rfl⟩
  rw [answer_of_asks hasks, ← execute_congr hgraph]
  simp only [answer, checked, hdecoded, withStored, hfound, storedDrawing, hd]
  rfl

/-- A drawing that is sent to be run is run. -/
theorem execute_of_content {ms : Members} {d : Drawing} (hd : Drawing.ofMembers ms = .ok d)
    (hasks : a.Asks .execute) (hbody : a.request.body.content = .ok (.object ms)) :
    (handle db a.now a.request).2 = execute d (inputOf ms) := by
  have hread : drawingWithInput (.object ms) = .ok (d, inputOf ms) := map_eq_ok.mpr ⟨d, hd, rfl⟩
  have hdecoded : decoded a.request.body drawingWithInput = .ok (d, inputOf ms) :=
    decoded_eq_ok.mpr ⟨_, hbody, hread⟩
  rw [answer_of_asks hasks]
  simp only [answer, checked, hdecoded]

end Running

/-- The rule with an id runs as a graph that was sent among some members: what is stored of it has
this graph, its source is the source of the graph, and a run of it gets the reply that a run of the
graph with the same input gets, at whatever moment and from whatever database. -/
structure RunsAs (db : Database) (id : String) (sent : Members) (g : Graph) : Prop where
  stored : ∃ r, db.store.get? id = some r ∧ r.Draws g
  source : ∀ a : Arrival, a.Asks (.source id) →
    ∃ name, (handle db a.now a.request).2 = .ok (.file name (Drl.generate g.link))
  run : ∀ (a b : Arrival) (other : Database) (ms ns : Members), a.Asks (.executeSaved id) →
    a.request.body.content = .ok (.object ms) → b.Asks .execute →
    b.request.body.content = .ok (.object ns) → ns.get? "nodes" = sent.get? "nodes" →
    ns.get? "edges" = sent.get? "edges" → inputOf ms = inputOf ns →
    (handle db a.now a.request).2 = (handle other b.now b.request).2

/-- **A saved rule runs as it was sent.** A request to save that is answered with success has sent a
graph, and the answer names the id of the rule. From then on, whatever else is asked for, and until
the rule is updated or deleted, the rule with this id runs as that graph; and the id can be used in
paths. -/
theorem saved_rule_runs_as_sent {db : Database} {a : Arrival} {body : Value}
    (hasks : a.Asks .save) (hsaved : (handle db a.now a.request).2 = .ok (.json 200 body)) :
    ∃ ms d g id, a.request.body.content = .ok (.object ms) ∧ Drawing.ofMembers ms = .ok d ∧
      d.toGraph = .ok g ∧ (body.child "rule").child "id" = .text id ∧
      (∀ now content, Arrival.Asks ⟨now, "GET", Request.pathOf id "drl", content⟩ (.source id)) ∧
      (∀ now content, Arrival.Asks ⟨now, "POST", Request.pathOf id "execute", content⟩
        (.executeSaved id)) ∧
      ∀ later, Spared (handle db a.now a.request).1 id later →
        RunsAs (after (handle db a.now a.request).1 later) id ms g := by
  rw [answer_of_asks hasks] at hsaved ⊢
  simp only [answer, checkedAnswer] at hsaved ⊢
  cases hread : decoded a.request.body SaveRequest.ofValue with
  | error answer =>
    rw [hread] at hsaved
    exact absurd hsaved (decoded_ne_success hread body)
  | ok q =>
    simp only [hread] at hsaved ⊢
    obtain ⟨v, hcontent, hv⟩ := decoded_eq_ok.mp hread
    obtain ⟨ms, rfl, hdrawing⟩ := SaveRequest.ofMembers_of_ofValue hv
    obtain ⟨g, rule, hgraph, hid, hreported, hstored, hnodes, hedges⟩ := save_stored hsaved
    have hpaths := Request.endpoint_pathOf db.nextId
    refine ⟨ms, q.drawing, g, rule.id, hcontent, hdrawing, hgraph, hreported, ?_, ?_, ?_⟩
    · intro now content
      rw [hid]
      exact (hpaths content).1
    · intro now content
      rw [hid]
      exact (hpaths content).2
    · intro later hspared
      have hfound := get?_after hstored hspared
      obtain ⟨d, hd, hg⟩ :=
        SavedRule.draws_of_kept (SaveRequest.clean_of_ofValue hv) hnodes hedges hgraph
      refine ⟨⟨rule, hfound, d, hd, hg⟩, ?_, ?_⟩
      · intro b hb
        exact ⟨_, source_of_draws hfound ⟨d, hd, hg⟩ hb⟩
      · intro b c other bs cs hb hbody hc hcbody hsameNodes hsameEdges hinput
        have hsent : Drawing.ofMembers cs = .ok q.drawing :=
          (Drawing.ofMembers_congr hsameNodes hsameEdges).trans hdrawing
        rw [executeSaved_of_draws hfound hd (hg.trans hgraph.symm) hb hbody,
          execute_of_content hsent hc hcbody, hinput]

/-- A request to delete the second rule that was saved. -/
def deletingSecond : Arrival where
  now := ⟨2⟩
  request := ⟨"DELETE", "/api/rules/00000000000000000000000000000002", .nothing⟩

/-- The rule is saved, the same is saved once more, and the second one is deleted: the source of the
first one can still be downloaded. -/
theorem saved_rule_runs_as_sent_saving :
    ∃ body ms g id, saving.Asks .save ∧
      (handle .empty saving.now saving.request).2 = .ok (.json 200 body) ∧
      saving.request.body.content = .ok (.object ms) ∧ (body.child "rule").child "id" = .text id ∧
      RunsAs (after .empty [saving, saving, deletingSecond]) id ms g ∧
      ∃ name, (handle (after .empty [saving, saving, deletingSecond]) ⟨3⟩
        ⟨"GET", Request.pathOf id "drl", .nothing⟩).2 = .ok (.file name (Drl.generate g.link)) := by
  have hasks : saving.Asks .save := Request.endpoint_save _
  have hdelete : deletingSecond.Asks (.delete "00000000000000000000000000000002") := by
    with_unfolding_all rfl
  have hsuccess : ∃ body, (handle .empty saving.now saving.request).2 = .ok (.json 200 body) ∧
      decide ((body.child "rule").child "id" = .text "00000000000000000000000000000001") = true :=
    exists_success _ (by with_unfolding_all decide)
  obtain ⟨body, hsaved, hfirst⟩ := hsuccess
  obtain ⟨ms, d, g, id, hcontent, -, -, hid, hpath, -, hruns⟩ :=
    saved_rule_runs_as_sent hasks hsaved
  obtain rfl := Value.text.inj (hid.symm.trans (of_decide_eq_true hfirst))
  have hspared : Spared (handle .empty saving.now saving.request).1
      "00000000000000000000000000000001" [saving, deletingSecond] := by
    refine ⟨⟨fun h => ?_, fun u r h => ?_⟩, ⟨fun h => ?_, fun u r h => ?_⟩, trivial⟩
    · exact nomatch hasks.symm.trans h
    · exact nomatch hasks.symm.trans h.asked
    · have hother := Endpoint.delete.inj (Except.ok.inj (hdelete.symm.trans h))
      exact absurd hother (by decide)
    · exact nomatch hdelete.symm.trans h.asked
  have hrun : RunsAs (after .empty [saving, saving, deletingSecond]) _ ms g :=
    hruns [saving, deletingSecond] hspared
  have hsource := hrun.source ⟨⟨3⟩, "GET", _, .nothing⟩ (hpath ⟨3⟩ .nothing)
  exact ⟨body, ms, g, _, hasks, hsaved, hcontent, hid, hrun, hsource⟩

end Service

end Rulebook
