import Rulebook.Proofs.Result
import Rulebook.Proofs.Tree
import Rulebook.Store

/-!
# What is read after an update

An update of the store goes column by column. A given text is always stored. A given tree is stored
only if it differs from the kept one as `Value.sameAs` sees it; otherwise the kept tree stays, even
where it holds `1` and the given one holds `true`. `Store.update_eq_ok` is the whole effect of an
update, and `Store.update_read_back_iff` says exactly when what was given is what is read.
-/

set_option autoImplicit false

namespace Rulebook

/-- An update as callers word it: texts, and lists of objects. What is none stays as it is. -/
structure Revision where
  name : Option String
  description : Option String
  nodes : Option (List Members)
  edges : Option (List Members)

namespace Revision

/-- A list of objects as a tree. -/
def tree (objects : List Members) : Value :=
  .list (objects.map .object)

/-- What the store is asked to change. -/
def changes (u : Revision) : Changes where
  name := (u.name.map .text).getD .null
  description := (u.description.map .text).getD .null
  nodes := (u.nodes.map tree).getD .null
  edges := (u.edges.map tree).getD .null

/-- What was given is what is read: the texts, and all that can be read from the trees. -/
structure ReadBack (u : Revision) (old read : SavedRule) : Prop where
  name : read.name = u.name.getD old.name
  description : read.description = u.description.getD old.description
  nodes : ∀ given, u.nodes = some given → read.nodes.Alike (tree given)
  nodesKept : u.nodes = none → read.nodes = old.nodes
  edges : ∀ given, u.edges = some given → read.edges.Alike (tree given)
  edgesKept : u.edges = none → read.edges = old.edges

end Revision

namespace Store

/-- What a tree column holds after an update that asks for the given tree, if it asks for one. -/
def column (oneNaN : Bool) (kept : Value) (given : Option (List Members)) : Value :=
  match given with
  | none => kept
  | some objects =>
    if (Revision.tree objects).sameAs oneNaN kept then kept else Revision.tree objects

/-- A given tree can be stored: it takes the place of the kept tree only if it can be written. -/
def Storable (oneNaN : Bool) (kept : Value) (given : Option (List Members)) : Prop :=
  ∀ objects, given = some objects → (Revision.tree objects).sameAs oneNaN kept = false →
    (Revision.tree objects).isWritable = true

/-! ## One column -/

/-- A text column takes the given text, whatever it was. -/
theorem newText_of_text {oneNaN : Bool} {kept : String} (given : Option String) :
    newText oneNaN kept ((given.map Value.text).getD .null) = .ok (some (given.getD kept)) := by
  cases given with
  | none => rfl
  | some s =>
    by_cases h : s = kept
    · simp [newText, changed, Value.given?, Value.sameAs, h]
    · simp [newText, changed, Value.given?, Value.sameAs, Value.columnText?, h]

theorem newTree_eq_ok {oneNaN : Bool} {kept v : Value} {given : Option (List Members)} :
    newTree oneNaN kept ((given.map Revision.tree).getD .null) = .ok v ↔
      Storable oneNaN kept given ∧ column oneNaN kept given = v := by
  cases given with
  | none => simp [newTree, changed, Value.given?, Storable, column]
  | some objects =>
    have hgiven : (Revision.tree objects).given? = some (Revision.tree objects) := rfl
    cases hsame : (Revision.tree objects).sameAs oneNaN kept with
    | true => simp [newTree, changed, hgiven, hsame, Storable, column]
    | false =>
      cases hwrite : (Revision.tree objects).isWritable with
      | true =>
        simp [newTree, changed, hgiven, hsame, Storable, column, Value.checkWritable, hwrite,
          bind, Except.bind, pure, Except.pure]
      | false =>
        simp [newTree, changed, hgiven, hsame, Storable, Value.checkWritable, hwrite, bind,
          Except.bind]

/-! ## The whole rule -/

/-- The rule that an update leaves. -/
def revised (oneNaN : Bool) (now : Timestamp) (r : SavedRule) (u : Revision) : SavedRule :=
  { r with
    name := u.name.getD r.name
    description := u.description.getD r.description
    nodes := column oneNaN r.nodes u.nodes
    edges := column oneNaN r.edges u.edges
    updatedAt :=
      if changed oneNaN (.text r.name) u.changes.name ||
        changed oneNaN (.text r.description) u.changes.description ||
        changed oneNaN r.nodes u.changes.nodes || changed oneNaN r.edges u.changes.edges
      then now else r.updatedAt }

theorem revise_eq_ok {oneNaN : Bool} {now : Timestamp} {r new : SavedRule} {u : Revision} :
    revise oneNaN now r u.changes = .ok new ↔
      Storable oneNaN r.nodes u.nodes ∧ Storable oneNaN r.edges u.edges ∧
        revised oneNaN now r u = new := by
  unfold revise
  constructor
  · intro h
    obtain ⟨nodes, hnodes, h⟩ := bind_eq_ok.mp h
    obtain ⟨edges, hedges, h⟩ := bind_eq_ok.mp h
    obtain ⟨name, hname, h⟩ := bind_eq_ok.mp h
    obtain ⟨description, hdescription, h⟩ := bind_eq_ok.mp h
    obtain ⟨hstorable, rfl⟩ := newTree_eq_ok.mp hnodes
    obtain ⟨hstorable', rfl⟩ := newTree_eq_ok.mp hedges
    cases (newText_of_text u.name).symm.trans hname
    cases (newText_of_text u.description).symm.trans hdescription
    exact ⟨hstorable, hstorable', Except.ok.inj h⟩
  · rintro ⟨hnodes, hedges, rfl⟩
    refine bind_eq_ok.mpr ⟨_, newTree_eq_ok.mpr ⟨hnodes, rfl⟩, ?_⟩
    refine bind_eq_ok.mpr ⟨_, newTree_eq_ok.mpr ⟨hedges, rfl⟩, ?_⟩
    refine bind_eq_ok.mpr ⟨_, newText_of_text u.name, ?_⟩
    exact bind_eq_ok.mpr ⟨_, newText_of_text u.description, rfl⟩

theorem id_of_get? {s : Store} {id : String} {r : SavedRule} (h : s.get? id = some r) :
    r.id = id := by
  unfold get? at h
  simpa using List.find?_some h

/-- Where an update changes a store: the rule with the id gives way to the revised one. -/
def replace (s : Store) (id : String) (new : SavedRule) : Store :=
  ⟨s.rules.map fun x => if x.id == id then new else x⟩

/-- A rule that gives way to one with the same id is looked up where the other one was. -/
theorem get?_replace_eq_map {s : Store} {other : String} {new : SavedRule} (hnew : new.id = other)
    (id : String) :
    (s.replace other new).get? id = (s.get? id).map fun x => if x.id == other then new else x := by
  have hsearch : (fun x : SavedRule => x.id == id) ∘ (fun x => if x.id == other then new else x) =
      fun x => x.id == id := by
    funext x
    by_cases hx : x.id = other
    · simp [hx, hnew]
    · simp [hx]
  unfold get? replace
  rw [List.find?_map, hsearch]

theorem get?_replace {s : Store} {id : String} {old new : SavedRule} (h : s.get? id = some old)
    (hid : new.id = id) : (s.replace id new).get? id = some new := by
  have hold : (old.id == id) = true := beq_iff_eq.mpr (id_of_get? h)
  rw [get?_replace_eq_map hid, h, Option.map_some, if_pos hold]

/-- **The whole effect of an update.** On an id that is taken it succeeds exactly when both given
trees can be stored, and then the rule with that id is the revised one. -/
theorem update_eq_ok {s : Store} {id : String} {old : SavedRule} (h : s.get? id = some old)
    {oneNaN : Bool} {now : Timestamp} {u : Revision} {result : Option (Store × SavedRule)} :
    s.update oneNaN now id u.changes = .ok result ↔
      Storable oneNaN old.nodes u.nodes ∧ Storable oneNaN old.edges u.edges ∧
        some (s.replace id (revised oneNaN now old u), revised oneNaN now old u) = result := by
  simp only [update, h]
  constructor
  · intro hupdate
    obtain ⟨new, hnew, hresult⟩ := bind_eq_ok.mp hupdate
    obtain ⟨hnodes, hedges, rfl⟩ := revise_eq_ok.mp hnew
    exact ⟨hnodes, hedges, Except.ok.inj hresult⟩
  · rintro ⟨hnodes, hedges, rfl⟩
    exact bind_eq_ok.mpr ⟨_, revise_eq_ok.mpr ⟨hnodes, hedges, rfl⟩, rfl⟩

/-! ## Reading back -/

/-- A given tree is read back from a column: if it counts as the kept tree nothing that can be read
from the two may differ, and otherwise it has to be one that can be written. -/
def Recovers (oneNaN : Bool) (kept : Value) (given : Option (List Members)) : Prop :=
  ∀ objects, given = some objects →
    if (Revision.tree objects).sameAs oneNaN kept then kept.Alike (Revision.tree objects)
    else (Revision.tree objects).isWritable = true

theorem recovers_iff {oneNaN : Bool} {kept : Value} {given : Option (List Members)} :
    Recovers oneNaN kept given ↔ Storable oneNaN kept given ∧ ∀ objects, given = some objects →
      (column oneNaN kept given).Alike (Revision.tree objects) := by
  cases given with
  | none => simp [Recovers, Storable]
  | some objects =>
    cases hsame : (Revision.tree objects).sameAs oneNaN kept with
    | true => simp [Recovers, Storable, column, hsame]
    | false => simp [Recovers, Storable, column, hsame, Value.Alike.refl]

/-- **Exactly when no update is lost.** On a rule that is stored, an update succeeds and what it was
given is what is read afterwards, texts and trees alike, if and only if each given tree either
cannot be told from the kept one at all or differs from it also as the store compares them. -/
theorem update_read_back_iff {s : Store} {id : String} {old : SavedRule} (h : s.get? id = some old)
    (oneNaN : Bool) (now : Timestamp) (u : Revision) :
    (∃ after new read, s.update oneNaN now id u.changes = .ok (some (after, new)) ∧
        after.get? id = some read ∧ u.ReadBack old read) ↔
      Recovers oneNaN old.nodes u.nodes ∧ Recovers oneNaN old.edges u.edges := by
  have hid : (revised oneNaN now old u).id = id := show old.id = id from id_of_get? h
  have hread := get?_replace h hid
  constructor
  · rintro ⟨after, new, read, hupdate, hget, hback⟩
    obtain ⟨hnodes, hedges, hresult⟩ := (update_eq_ok h).mp hupdate
    cases hresult
    cases hread.symm.trans hget
    exact ⟨recovers_iff.mpr ⟨hnodes, hback.nodes⟩, recovers_iff.mpr ⟨hedges, hback.edges⟩⟩
  · rintro ⟨hnodes, hedges⟩
    obtain ⟨hnodes, hnodesAlike⟩ := recovers_iff.mp hnodes
    obtain ⟨hedges, hedgesAlike⟩ := recovers_iff.mp hedges
    refine ⟨_, _, _, (update_eq_ok h).mpr ⟨hnodes, hedges, rfl⟩, hread, ?_⟩
    exact
      { name := rfl
        description := rfl
        nodes := hnodesAlike
        nodesKept := fun hnone => by simp [revised, column, hnone]
        edges := hedgesAlike
        edgesKept := fun hnone => by simp [revised, column, hnone] }

/-- A rule whose first node holds a number, as it may be stored. -/
def counted : SavedRule where
  id := "1"
  name := "Counted"
  description := ""
  nodes := Revision.tree [[("value", .list [.int 1, .null])]]
  edges := Revision.tree []
  createdAt := ⟨0⟩
  updatedAt := ⟨0⟩

/-- Added to an empty database it is the only rule. -/
theorem perform_add_counted (nextId : Nat) (now : Timestamp) :
    let r : SavedRule := { counted with createdAt := now, updatedAt := now }
    Database.perform ⟨.empty, nextId⟩ now (.add (some "1")
      ⟨.text "Counted", .null, counted.nodes, counted.edges⟩) = (⟨⟨[r]⟩, nextId⟩, .rule r) := by
  have hnodes : counted.nodes.isWritable = true := by
    simp [counted, Revision.tree, Value.isWritable, Value.allWritable, Value.allMembersWritable,
      lt_digitBound_of_lt]
  simp only [Database.perform, Database.add, add, Value.checkWritable, hnodes]
  rfl

theorem update_read_back_counted :
    get? ⟨[counted]⟩ "1" = some counted ∧
      let u : Revision :=
        ⟨some "Renamed", none, some [[("value", .list [.bool false, .null])]], none⟩
      ∃ after new read, update ⟨[counted]⟩ false ⟨7⟩ "1" u.changes = .ok (some (after, new)) ∧
        after.get? "1" = some read ∧ u.ReadBack counted read := by
  have h : get? ⟨[counted]⟩ "1" = some counted := by decide
  refine ⟨h, (update_read_back_iff h false ⟨7⟩ _).mpr ⟨?_, ?_⟩⟩
  · intro objects hobjects
    cases hobjects
    rw [if_neg (by decide)]
    decide
  · intro objects hobjects
    cases hobjects

/-- **An update can be lost.** Deep inside the stored nodes there is `1`; the update puts `true`
there, the store sees no difference, and `1` is what is read. -/
theorem update_lost :
    (Database.empty.perform ⟨0⟩ (.add (some "1")
      ⟨.text "Counted", .null, counted.nodes, counted.edges⟩)).1.store = ⟨[counted]⟩ ∧
    ¬ ∀ (s : Store) (id : String) (old : SavedRule) (now : Timestamp) (u : Revision),
      s.get? id = some old →
        ∃ after new read, s.update false now id u.changes = .ok (some (after, new)) ∧
          after.get? id = some read ∧ u.ReadBack old read := by
  refine ⟨congrArg (·.1.store) (perform_add_counted _ ⟨0⟩), fun hall => ?_⟩
  have h : get? ⟨[counted]⟩ "1" = some counted := by decide
  obtain ⟨after, new, read, hupdate, hget, hback⟩ := hall ⟨[counted]⟩ "1" counted ⟨7⟩
    ⟨none, none, some [[("value", .list [.bool true, .null])]], none⟩ h
  have hkept : read.nodes = counted.nodes := by
    obtain ⟨-, -, hresult⟩ := (update_eq_ok h).mp hupdate
    cases hresult
    cases (get?_replace h rfl).symm.trans hget
    decide
  -- The place where the given tree and the kept one part.
  have hplace := hback.nodes _ rfl [.index 0, .key "value", .index 0]
  rw [hkept] at hplace
  exact absurd hplace (by decide)

end Store

end Rulebook
