import Rulebook.Proofs.Kept
import Rulebook.Proofs.Sent

/-!
# What nodes and edges keep

Nodes and edges are kept with all their members, and not quite: a kept node always has data, and a
kept edge has no nulls. `DrawnNode.ReadFrom.below?_toValue` and `DrawnEdge.ReadFrom.below?_toValue`
say what stands under each key, and from them it follows when a node or an edge comes back as it was
sent (`DrawnNode.returns_iff`, `DrawnEdge.returns_iff`).
-/

set_option autoImplicit false

namespace Rulebook

/-! ## Members -/

namespace Members

variable {key : String}

theorem get?_cons (k : String) (v : Value) (rest : Members) (key : String) :
    get? ((k, v) :: rest) key = if k = key then some v else rest.get? key := by
  unfold get?
  by_cases hk : k = key
  · simp [hk]
  · simp [hk]

/-- Where no key is there twice, members that are filtered by their values show a value exactly when
it passes. -/
theorem get?_filter {ms : Members} (h : (ms.map Prod.fst).Nodup) (p : Value → Bool)
    (key : String) : get? (ms.filter fun m => p m.2) key = (ms.get? key).filter p := by
  induction ms with
  | nil => rfl
  | cons m rest ih =>
    obtain ⟨k, v⟩ := m
    obtain ⟨hk, hrest⟩ := List.nodup_cons.mp h
    -- A member that does not pass hides no other of its key.
    have hhidden : k = key → get? (rest.filter fun m => p m.2) key = none := by
      rintro rfl
      have havoids : Avoids rest [k] := by
        intro m hm hkey
        exact hk (List.mem_map.mpr ⟨m, hm, List.mem_singleton.mp hkey⟩)
      exact (havoids.filter _).get?_eq_none (List.mem_singleton_self k)
    rw [get?_cons, List.filter_cons]
    cases hv : p v with
    | true =>
      rw [if_pos rfl, get?_cons, ih hrest]
      split_ifs with hkey
      · rw [Option.filter_some, if_pos hv]
      · rfl
    | false =>
      rw [if_neg Bool.false_ne_true]
      split_ifs with hkey
      · rw [hhidden hkey, Option.filter_some, hv]
        rfl
      · exact ih hrest

end Members

/-! ## Nodes -/

namespace DrawnNode

variable {ms : Members} {n : DrawnNode} {v : Value}

/-- A node is what is read from some members. -/
structure ReadFrom (n : DrawnNode) (ms : Members) : Prop where
  id : ms.get? "id" = some (.text n.id)
  type : ms.get? "type" = some (.text n.type)
  data : ms.get? "data" = some (.object n.data) ∨ ms.get? "data" = none ∧ n.data = []
  extras : n.extras = ms.without ["id", "type", "data"]

theorem readFrom (h : ofValue v = .ok n) : ∃ ms, v = .object ms ∧ n.ReadFrom ms := by
  obtain ⟨ms, rfl, h⟩ := Value.exists_of_record h
  obtain ⟨⟨id, type, data⟩, hread, rfl⟩ := map_eq_ok.mp h
  obtain ⟨hid, hread⟩ := Checked.both_eq_ok.mp hread
  obtain ⟨htype, hdata⟩ := Checked.both_eq_ok.mp hread
  obtain ⟨v, hid, hidText⟩ := Members.required_eq_ok.mp hid
  obtain ⟨w, htype, htypeText⟩ := Members.required_eq_ok.mp htype
  refine ⟨ms, rfl, ⟨?_, ?_, ?_, rfl⟩⟩
  · rw [hid, Value.asText_eq_ok.mp hidText]
  · rw [htype, Value.asText_eq_ok.mp htypeText]
  · rcases Members.optional_eq_ok.mp hdata with ⟨d, hd, hobject⟩ | hnone
    · exact .inl (hd.trans (congrArg some (Value.asObject_eq_ok.mp hobject)))
    · exact .inr hnone

/-- Under every key a kept node has what was sent, but it always has data. -/
theorem ReadFrom.below?_toValue (h : n.ReadFrom ms) (key : String) :
    n.toValue.below? (.key key) =
      if key = "data" then some (.object n.data) else ms.get? key := by
  show Members.get? (("id", .text n.id) :: ("type", .text n.type) :: ("data", .object n.data) ::
    n.extras) key = _
  rw [Members.get?_cons, Members.get?_cons, Members.get?_cons, h.extras, Members.get?_without]
  by_cases hid : "id" = key
  · subst hid
    simp [h.id]
  by_cases htype : "type" = key
  · subst htype
    simp [h.type]
  by_cases hdata : "data" = key
  · subst hdata
    simp
  · have hother : key ∉ ["id", "type", "data"] := by simp [Ne.symm hid, Ne.symm htype, Ne.symm hdata]
    rw [if_neg hid, if_neg htype, if_neg hdata, if_neg hother, if_neg (Ne.symm hdata)]

/-- A node that has data is kept as it was sent. -/
theorem ReadFrom.toValue_alike (h : n.ReadFrom ms) (hdata : ms.get? "data" ≠ none) :
    n.toValue.Alike (.object ms) := by
  apply Value.alike_object
  intro key
  refine (h.below?_toValue key).trans ?_
  split_ifs with hkey
  · rcases h.data with hobject | ⟨hnone, -⟩
    · rw [hkey, hobject]
    · exact absurd hnone hdata
  · rfl

/-- **When a node comes back**: it has data, and JSON has its numbers. -/
theorem returns_iff (h : ofValue v = .ok n) :
    n.toValue.sendable.Alike v ↔ v.IsJson ∧ v.below? (.key "data") ≠ none := by
  obtain ⟨ms, rfl, hread⟩ := readFrom h
  constructor
  · intro hback
    have hdata : Members.get? ms "data" ≠ none := by
      intro hnone
      have hplace := hback [.key "data"]
      rw [Value.shapeAt?_sendable, Value.shapeAt?, hread.below?_toValue, if_pos rfl] at hplace
      have hmissing : Value.below? (.object ms) (.key "data") = none := hnone
      rw [Value.shapeAt?, hmissing] at hplace
      exact absurd hplace (Option.some_ne_none _)
    exact ⟨(hread.toValue_alike hdata).sendable_alike_iff.mp hback, hdata⟩
  · rintro ⟨hjson, hdata⟩
    exact (hread.toValue_alike hdata).sendable_alike_iff.mpr hjson

end DrawnNode

/-! ## Edges -/

namespace DrawnEdge

variable {ms : Members} {e : DrawnEdge} {v : Value}

/-- An edge is what is read from some members. -/
structure ReadFrom (e : DrawnEdge) (ms : Members) : Prop where
  id : e.id.map Value.text = (ms.get? "id").filter (· != .null)
  source : ms.get? "source" = some (.text e.source)
  target : ms.get? "target" = some (.text e.target)
  extras : e.extras = ms.without ["id", "source", "target"]

theorem readFrom (h : ofValue v = .ok e) : ∃ ms, v = .object ms ∧ e.ReadFrom ms := by
  obtain ⟨ms, rfl, h⟩ := Value.exists_of_record h
  obtain ⟨⟨id, source, target⟩, hread, rfl⟩ := map_eq_ok.mp h
  obtain ⟨hid, hread⟩ := Checked.both_eq_ok.mp hread
  obtain ⟨hsource, htarget⟩ := Checked.both_eq_ok.mp hread
  obtain ⟨v, hsource, hsourceText⟩ := Members.required_eq_ok.mp hsource
  obtain ⟨w, htarget, htargetText⟩ := Members.required_eq_ok.mp htarget
  refine ⟨ms, rfl, ⟨?_, ?_, ?_, rfl⟩⟩
  · show id.map Value.text = _
    rcases Members.optional_eq_ok.mp hid with ⟨v, hv, htext⟩ | ⟨hnone, hid⟩
    · rw [hv, Value.asOptionalText_eq_ok.mp htext]
      cases id <;> rfl
    · rw [hnone, show id = none from hid]
      rfl
  · rw [hsource, Value.asText_eq_ok.mp hsourceText]
  · rw [htarget, Value.asText_eq_ok.mp htargetText]

/-- Under every key a kept edge has what was sent, unless that was null. -/
theorem ReadFrom.below?_toValue (h : e.ReadFrom ms) (hdistinct : (ms.map Prod.fst).Nodup)
    (key : String) : e.toValue.below? (.key key) = (ms.get? key).filter (· != .null) := by
  obtain ⟨id, source, target, extras⟩ := e
  obtain rfl : extras = _ := h.extras
  have hnodup : ((ms.without ["id", "source", "target"]).map Prod.fst).Nodup :=
    hdistinct.sublist (List.filter_sublist.map Prod.fst)
  -- What stands behind the id, which is not there if it was null.
  have hrest : Members.get? (("source", .text source) :: ("target", .text target) ::
      (ms.without ["id", "source", "target"]).filter fun m => m.2 != .null) key =
        if "id" = key then none else (ms.get? key).filter (· != .null) := by
    rw [Members.get?_cons, Members.get?_cons, Members.get?_filter hnodup (· != .null),
      Members.get?_without]
    by_cases hsource : "source" = key
    · subst hsource
      rw [if_pos rfl, if_neg (by decide), h.source]
      rfl
    by_cases htarget : "target" = key
    · subst htarget
      rw [if_neg hsource, if_pos rfl, if_neg (by decide), h.target]
      rfl
    rw [if_neg hsource, if_neg htarget]
    by_cases hid : "id" = key
    · simp [← hid]
    · have hother : key ∉ ["id", "source", "target"] := by
        simp [Ne.symm hid, Ne.symm hsource, Ne.symm htarget]
      rw [if_neg hother, if_neg hid]
  have hid : id.map Value.text = (ms.get? "id").filter (· != .null) := h.id
  cases id with
  | none =>
    refine hrest.trans ?_
    split_ifs with hkey
    · rw [← hkey, ← hid]
      rfl
    · rfl
  | some s =>
    refine (Members.get?_cons "id" (.text s) _ key).trans ?_
    split_ifs with hkey
    · rw [← hkey, ← hid]
      rfl
    · exact hrest.trans (if_neg hkey)

/-- An edge without nulls is kept as it was sent. -/
theorem ReadFrom.toValue_alike (h : e.ReadFrom ms) (hdistinct : (ms.map Prod.fst).Nodup)
    (hnulls : ∀ key, ms.get? key ≠ some .null) : e.toValue.Alike (.object ms) := by
  apply Value.alike_object
  intro key
  refine (h.below?_toValue hdistinct key).trans ?_
  cases hv : ms.get? key with
  | none => rfl
  | some v =>
    have hv' : v ≠ .null := by
      rintro rfl
      exact hnulls key hv
    rw [Option.filter_some, if_pos (bne_iff_ne.mpr hv')]

/-- **When an edge comes back**: it has no nulls of its own, and JSON has its numbers. -/
theorem returns_iff (h : ofValue v = .ok e)
    (hdistinct : ∀ ms, v = .object ms → (ms.map Prod.fst).Nodup) :
    e.toValue.sendable.Alike v ↔ v.IsJson ∧ ∀ key, v.below? (.key key) ≠ some .null := by
  obtain ⟨ms, rfl, hread⟩ := readFrom h
  have hkept := hread.below?_toValue (hdistinct ms rfl)
  constructor
  · intro hback
    have hnulls : ∀ key, Members.get? ms key ≠ some .null := by
      intro key hnull
      have hplace := hback [.key key]
      rw [Value.shapeAt?_sendable, Value.shapeAt?, hkept, hnull] at hplace
      have hpresent : Value.below? (.object ms) (.key key) = some .null := hnull
      rw [Value.shapeAt?, hpresent] at hplace
      exact absurd hplace.symm (Option.some_ne_none _)
    exact ⟨(hread.toValue_alike (hdistinct ms rfl) hnulls).sendable_alike_iff.mp hback, hnulls⟩
  · rintro ⟨hjson, hnulls⟩
    exact (hread.toValue_alike (hdistinct ms rfl) hnulls).sendable_alike_iff.mpr hjson

end DrawnEdge

end Rulebook
