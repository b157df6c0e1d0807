import Rulebook.Proofs.Revision

/-!
# Looking up rules

What the store does is seen in what is found under an id. Each operation is known by that: adding
under a free id makes one rule be found there, replacing and removing act on one id, and everywhere
else the same is found as before. Adding is settled first: `Store.add_eq_ok` says when it succeeds
and with which rule.
-/

set_option autoImplicit false

namespace Rulebook

/-! ## Adding -/

/-- What a text column keeps of a given value: a text as it is, and of other values the text that
they are turned into, if there is one. -/
def Value.KeptAs (given : Value) (s : String) : Prop :=
  match given with
  | .text t => s = t
  | v => v.columnText? = .ok (some s)

theorem Value.columnText?_eq_ok {given : Value} {s : String} :
    given.columnText? = .ok (some s) ↔ given.KeptAs s := by
  cases given with
  | text t =>
    show Except.ok (some t) = Except.ok (some s) ↔ s = t
    rw [Except.ok.injEq, Option.some.injEq, eq_comm]
  | _ => exact Iff.rfl

/-- A rule has the columns that are made of a draft, and they can be kept. -/
structure Draft.StoredAs (d : Draft) (r : SavedRule) : Prop where
  name : d.name.KeptAs r.name
  /-- A description that is missing is empty. -/
  description : (d.description.given?.getD (.text "")).KeptAs r.description
  nodes : r.nodes = d.nodes
  edges : r.edges = d.edges
  nodesWritable : d.nodes.isWritable = true
  edgesWritable : d.edges.isWritable = true

namespace Store

variable {s : Store} {id other : String} {r new : SavedRule}

theorem checkWritable_eq_ok {v : Value} {u : Unit} :
    v.checkWritable = .ok u ↔ v.isWritable = true := by
  unfold Value.checkWritable
  cases v.isWritable <;> simp

theorem present_eq_ok {o : Option String} {t : String} :
    Value.present o = .ok t ↔ o = some t := by
  cases o <;> simp [Value.present]

/-- **All there is to know of adding.** It succeeds on a free id with a draft that can be kept, and
puts the rule that is made of the draft at the end. -/
theorem add_eq_ok {after : Store} {now : Timestamp} {d : Draft} :
    s.add now id d = .ok (after, r) ↔
      s.contains id = false ∧ d.StoredAs r ∧ r.id = id ∧ r.createdAt = now ∧ r.updatedAt = now ∧
        after = ⟨s.rules ++ [r]⟩ := by
  unfold add
  constructor
  · intro h
    obtain ⟨_, hnodes, h⟩ := bind_eq_ok.mp h
    obtain ⟨_, hedges, h⟩ := bind_eq_ok.mp h
    obtain ⟨name?, hname?, h⟩ := bind_eq_ok.mp h
    obtain ⟨description?, hdescription?, h⟩ := bind_eq_ok.mp h
    obtain ⟨name, hname, h⟩ := bind_eq_ok.mp h
    obtain ⟨description, hdescription, h⟩ := bind_eq_ok.mp h
    split_ifs at h with htaken
    obtain ⟨rfl, rfl⟩ := Prod.mk.inj (Except.ok.inj h)
    refine ⟨by simpa using htaken, ?_, rfl, rfl, rfl, rfl⟩
    exact
      { name := Value.columnText?_eq_ok.mp (present_eq_ok.mp hname ▸ hname?)
        description := Value.columnText?_eq_ok.mp (present_eq_ok.mp hdescription ▸ hdescription?)
        nodes := rfl
        edges := rfl
        nodesWritable := checkWritable_eq_ok.mp hnodes
        edgesWritable := checkWritable_eq_ok.mp hedges }
  · rintro ⟨hfree, hstored, rfl, rfl, hupdated, rfl⟩
    refine bind_eq_ok.mpr ⟨(), checkWritable_eq_ok.mpr hstored.nodesWritable, ?_⟩
    refine bind_eq_ok.mpr ⟨(), checkWritable_eq_ok.mpr hstored.edgesWritable, ?_⟩
    refine bind_eq_ok.mpr ⟨_, Value.columnText?_eq_ok.mpr hstored.name, ?_⟩
    refine bind_eq_ok.mpr ⟨_, Value.columnText?_eq_ok.mpr hstored.description, ?_⟩
    refine bind_eq_ok.mpr ⟨_, present_eq_ok.mpr rfl, bind_eq_ok.mpr ⟨_, present_eq_ok.mpr rfl, ?_⟩⟩
    obtain ⟨id, name, description, nodes, edges, createdAt, updatedAt⟩ := r
    obtain rfl : nodes = d.nodes := hstored.nodes
    obtain rfl : edges = d.edges := hstored.edges
    obtain rfl : updatedAt = createdAt := hupdated
    rw [if_neg (by simpa using hfree)]
    rfl

/-! ## Finding -/

theorem contains_eq_false : s.contains id = false ↔ s.get? id = none := by
  unfold contains get?
  rw [List.any_eq_false, List.find?_eq_none]

theorem contains_eq (s : Store) (id : String) : s.contains id = (s.get? id).isSome := by
  cases hget : s.get? id with
  | none => exact contains_eq_false.mpr hget
  | some r =>
    cases hcontains : s.contains id with
    | true => rfl
    | false => exact nomatch (contains_eq_false.mp hcontains).symm.trans hget

/-- When adding succeeds. -/
theorem exists_add_eq_ok {now : Timestamp} {d : Draft} :
    (∃ p, s.add now id d = .ok p) ↔ s.get? id = none ∧ ∃ rule, d.StoredAs rule := by
  constructor
  · rintro ⟨⟨after, rule⟩, h⟩
    obtain ⟨hfree, hstored, -⟩ := add_eq_ok.mp h
    exact ⟨contains_eq_false.mp hfree, rule, hstored⟩
  · rintro ⟨hfree, rule, hstored⟩
    -- The columns of the draft do not fix the id and the moments.
    let new : SavedRule := { rule with id, createdAt := now, updatedAt := now }
    have hnew : d.StoredAs new := { hstored with }
    exact ⟨_, add_eq_ok.mpr ⟨contains_eq_false.mpr hfree, hnew, rfl, rfl, rfl, rfl⟩⟩

/-- A rule that is added under a free id is found there, and hides nothing. -/
theorem get?_concat (hfree : s.get? r.id = none) (id : String) :
    get? ⟨s.rules ++ [r]⟩ id = if id = r.id then some r else s.get? id := by
  unfold get? at *
  rw [List.find?_append]
  by_cases hid : id = r.id
  · subst hid
    rw [hfree, if_pos rfl, Option.none_or, List.find?_singleton, if_pos (beq_self_eq_true r.id)]
  · have hother : (r.id == id) = false := by simpa using Ne.symm hid
    rw [if_neg hid, List.find?_singleton, hother, if_neg Bool.false_ne_true, Option.or_none]

/-- An update goes on from the rule that is found, and puts the revised one in its place. -/
theorem update_of_get? (h : s.get? id = some r) (oneNaN : Bool) (now : Timestamp) (c : Changes) :
    s.update oneNaN now id c =
      (revise oneNaN now r c).map fun new => some (s.replace id new, new) := by
  unfold update
  rw [h]
  show (revise oneNaN now r c >>= _) = _
  cases revise oneNaN now r c <;> rfl

theorem update_of_get?_none (h : s.get? id = none) (oneNaN : Bool) (now : Timestamp)
    (c : Changes) : s.update oneNaN now id c = .ok none := by
  unfold update
  rw [h]

/-- A rule that gives way to one with the same id is the only one that is not found any more. -/
theorem get?_replace_eq (hfound : s.get? other = some r) (hnew : new.id = other) (id : String) :
    (s.replace other new).get? id = if id = other then some new else s.get? id := by
  split_ifs with hid
  · rw [hid]
    exact get?_replace hfound hnew
  · rw [get?_replace_eq_map hnew]
    cases hget : s.get? id with
    | none => rfl
    | some x =>
      have hx : (x.id == other) = false := by
        rw [id_of_get? hget]
        simpa using hid
      rw [Option.map_some, hx]
      rfl

/-- Removing says whether there was a rule to remove. -/
theorem remove_fst (s : Store) (id : String) : (s.remove id).1 = (s.get? id).isSome :=
  contains_eq s id

theorem remove_of_get?_none (h : s.get? id = none) : (s.remove id).2 = s := by
  have hkept : s.rules.filter (·.id != id) = s.rules := by
    rw [List.filter_eq_self]
    intro x hx
    simpa using List.find?_eq_none.mp h x hx
  unfold remove
  rw [hkept]

/-- Under an id whose rules are removed nothing is found, and elsewhere the same as before. -/
theorem get?_remove (s : Store) (other id : String) :
    (s.remove other).2.get? id = if id = other then none else s.get? id := by
  unfold get? remove
  rw [List.find?_filter]
  split_ifs with hid
  · rw [List.find?_eq_none]
    intro x _
    simp [hid]
  · congr 1
    funext x
    by_cases hx : x.id = id
    · simp [hx, hid]
    · simp [hx]

end Store

end Rulebook
