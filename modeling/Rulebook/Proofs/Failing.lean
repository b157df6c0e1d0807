import Rulebook.Proofs.SavedGraphs

/-!
# Requests that fail

The service changes the store first and words its reply afterwards, so a reply that cannot be sent
would hide a change. What keeps that from happening is an invariant: every rule in the store can be
written out (`Service.after_writable`), because nothing else gets into a column, and a rule that can
be written out can be sent. So a request that is not answered with success has changed nothing.
-/

set_option autoImplicit false

namespace Rulebook

namespace SavedRule

/-- The columns of a rule can be written out. -/
structure Writable (r : SavedRule) : Prop where
  nodes : r.nodes.isWritable = true
  edges : r.edges.isWritable = true

/-- Then so can the rule as clients see it: all else in it is text. -/
theorem Writable.toValue {r : SavedRule} (h : r.Writable) : r.toValue.isWritable = true := by
  simp [SavedRule.toValue, Value.isWritable, Value.allMembersWritable, h.nodes, h.edges]

theorem writable_of_storedAs {r : SavedRule} {d : Draft} (h : d.StoredAs r) : r.Writable :=
  ⟨h.nodes ▸ h.nodesWritable, h.edges ▸ h.edgesWritable⟩

/-- An update takes over only what can be written out. -/
theorem Writable.revised {r : SavedRule} (h : r.Writable) {oneNaN : Bool} {now : Timestamp}
    {u : Revision} (hnodes : Store.Storable oneNaN r.nodes u.nodes)
    (hedges : Store.Storable oneNaN r.edges u.edges) :
    (Store.revised oneNaN now r u).Writable := by
  constructor
  · exact Store.column_of (P := fun v => v.isWritable = true) h.nodes hnodes fun _ _ hw => hw
  · exact Store.column_of (P := fun v => v.isWritable = true) h.edges hedges fun _ _ hw => hw

end SavedRule

namespace Reply

theorem send_of_isWritable {status : Nat} {body : Value} (h : body.isWritable = true) :
    send status body = .ok (.json status body.sendable) := by
  unfold send
  rw [if_pos h]

end Reply

namespace Service

/-! ## What is stored can be written out -/

/-- Every rule in the store can be written out. -/
def AllWritable (db : Database) : Prop :=
  ∀ r ∈ db.store.rules, r.Writable

/-- **A step.** Whatever a request does to the store, all in it can be written out. -/
theorem Effect.writable {db : Database} {a : Arrival} {s : Store} (h : Effect db a s)
    (hall : AllWritable db) : ∀ r ∈ s.rules, r.Writable := by
  cases h with
  | unchanged => exact hall
  | saved clean graph valid free stored =>
    intro r hr
    rcases List.mem_append.mp hr with hr | hr
    · exact hall r hr
    · rw [List.mem_singleton.mp hr]
      exact SavedRule.writable_of_storedAs stored
  | @updated id u r revises =>
    have hr := hall r (List.mem_of_find?_eq_some revises.found)
    intro x hx
    rcases Store.mem_replace hx with rfl | hx
    · exact hr.revised revises.nodes revises.edges
    · exact hall x hx
  | removed asked => exact fun r hr => hall r (List.mem_of_mem_filter hr)

theorem AllWritable.handle {db : Database} (h : AllWritable db) (a : Arrival) :
    AllWritable (handle db a.now a.request).1 :=
  (handle_effect db a).writable h

theorem AllWritable.after {db : Database} (h : AllWritable db) (arrivals : List Arrival) :
    AllWritable (after db arrivals) :=
  after_of_step (fun _ a hall => hall.handle a) h arrivals

theorem after_writable (arrivals : List Arrival) : AllWritable (after .empty arrivals) := by
  apply AllWritable.after
  intro r hr
  exact absurd hr List.not_mem_nil

/-! ## What a change is answered with -/

/-- A rule that can be written out is reported after a change. -/
theorem changedReply_of_writable (message : String) {r : SavedRule} (h : r.Writable) :
    changedReply message r =
      .ok (.json 200 (Value.object [("message", .text message), ("rule", r.toValue)]).sendable) := by
  apply Reply.send_of_isWritable
  simp [Value.isWritable, Value.allMembersWritable, h.toValue]

/-- A request is answered with success. -/
def Succeeds : Except ServiceError Reply → Prop
  | .ok (.json status _) => 200 ≤ status ∧ status < 300
  | .ok (.file _ _) => True
  | .error _ => False

instance : DecidablePred Succeeds
  | .ok (.json status _) => inferInstanceAs (Decidable (200 ≤ status ∧ status < 300))
  | .ok (.file _ _) => isTrue trivial
  | .error _ => isFalse not_false

end Service

end Rulebook
