import Rulebook.Proofs.Ordering
import Rulebook.Proofs.Records

/-!
# The moments of a rule follow its changes

A rule knows when it was made and when it was changed last. `Records.DoAll.stamped` follows both
through any calls under a clock that does not go back.

An update counts as a change if something that it passes is not the same as what is kept
(`Revision.Restates`), and only then it writes and moves the second moment. A tree that counts as
the kept one is not written, so what is read may not be what was passed. All the same the update
restates what it leaves (`Revision.Regular.restates_revised`), because whatever is left in a column
counts as what was passed for it. This needs that values count as the same as themselves, which is
true of all but those with a double that is no number in them (`Value.sameAs_self`).

Rules are listed by when they were made, and that an update leaves alone.
-/

set_option autoImplicit false

namespace Rulebook

/-! ## Values and themselves -/

namespace Value

/-- Values without a double that is no number anywhere in them. Objects are what they are in
programs, with every key once. -/
inductive Regular : Value → Prop
  | absent : Regular .absent
  | null : Regular .null
  | bool (b : Bool) : Regular (.bool b)
  | int (n : Int) : Regular (.int n)
  | double {d : Double} (hd : d ≠ .nan) : Regular (.double d)
  | text (s : String) : Regular (.text s)
  | list {items : List Value} (hitems : ∀ v ∈ items, Regular v) : Regular (.list items)
  | object {ms : Members} (hkeys : (ms.map Prod.fst).Nodup) (hmembers : ∀ p ∈ ms, Regular p.2) :
    Regular (.object ms)

theorem sameItems_self {oneNaN : Bool} {items : List Value}
    (h : ∀ v ∈ items, v.sameAs oneNaN v = true) : sameItems oneNaN items items = true := by
  induction items with
  | nil => rfl
  | cons v rest ih =>
    obtain ⟨hv, hrest⟩ := List.forall_mem_cons.mp h
    rw [sameItems, hv, ih hrest, Bool.and_true]

theorem sameMembers_of_get? {oneNaN : Bool} {ms ns : Members}
    (h : ∀ p ∈ ms, ∃ w, Members.get? ns p.1 = some w ∧ p.2.sameAs oneNaN w = true) :
    sameMembers oneNaN ms ns = true := by
  induction ms with
  | nil => rfl
  | cons p rest ih =>
    obtain ⟨hp, hrest⟩ := List.forall_mem_cons.mp h
    obtain ⟨w, hw, hsame⟩ := hp
    obtain ⟨k, v⟩ := p
    simp only [sameMembers, hw, hsame, ih hrest, Bool.and_true]

theorem sameNumber_self {v : Value} {n : Number} (hv : v.asNumber? = some n)
    (hn : n ≠ .double .nan) : sameNumber n v = true := by
  obtain ⟨p, hp⟩ := Option.ne_none_iff_exists'.mp (mt Number.place?_eq_none_iff.mp hn)
  rw [sameNumber, hv]
  dsimp only
  rw [Number.eq_of_places hp hp]
  exact beq_self_eq_true p

/-- **Without a double that is no number a value counts as the same as itself.** -/
theorem sameAs_self (oneNaN : Bool) {v : Value} (h : v.Regular) : v.sameAs oneNaN v = true := by
  induction h with
  | absent => rfl
  | null => rfl
  | bool b => exact sameNumber_self (v := .bool b) rfl nofun
  | int n => exact sameNumber_self (v := .int n) rfl nofun
  | @double d hd =>
    have hsame : sameNumber (.double d) (.double d) = true :=
      sameNumber_self rfl (by simpa using hd)
    cases d with
    | nan => exact absurd rfl hd
    | infinity negative => exact hsame
    | finite negative m e h => exact hsame
  | text s => simp [sameAs]
  | list _ ih => exact sameItems_self ih
  | @object ms hkeys _ ih =>
    rw [sameAs, beq_self_eq_true, Bool.true_and]
    refine sameMembers_of_get? fun p hp => ⟨p.2, ?_, ih p hp⟩
    rw [Members.get?, find?_key_of_mem Prod.fst hkeys hp, Option.map_some]

end Value

/-! ## Changes -/

namespace Revision

variable {u : Revision} {r : SavedRule} {now : Timestamp}

/-- All that is passed counts as what is kept already. -/
structure Restates (u : Revision) (r : SavedRule) : Prop where
  name : ∀ s, u.name = some s → s = r.name
  description : ∀ s, u.description = some s → s = r.description
  nodes : ∀ nodes, u.nodes = some nodes → (tree nodes).sameAs false r.nodes = true
  edges : ∀ edges, u.edges = some edges → (tree edges).sameAs false r.edges = true

/-- The trees that are passed and differ from what is kept can be stored. -/
def Fits (u : Revision) (r : SavedRule) : Prop :=
  Store.Storable false r.nodes u.nodes ∧ Store.Storable false r.edges u.edges

/-- No double that is no number is passed. -/
structure Regular (u : Revision) : Prop where
  nodes : ∀ nodes, u.nodes = some nodes → (tree nodes).Regular
  edges : ∀ edges, u.edges = some edges → (tree edges).Regular

theorem changed_text_eq_false {kept : String} {given : Option String} :
    Store.changed false (.text kept) ((given.map Value.text).getD .null) = false ↔
      ∀ s, given = some s → s = kept := by
  cases given with
  | none => simp [Store.changed, Value.given?]
  | some s => simp [Store.changed, Value.given?, Value.sameAs]

theorem changed_tree_eq_false {kept : Value} {given : Option (List Members)} :
    Store.changed false kept ((given.map tree).getD .null) = false ↔
      ∀ objects, given = some objects → (tree objects).sameAs false kept = true := by
  cases given with
  | none => simp [Store.changed, Value.given?]
  | some objects => simp [Store.changed, Value.given?, tree]

theorem untouched_iff :
    (Store.changed false (.text r.name) u.changes.name ||
      Store.changed false (.text r.description) u.changes.description ||
      Store.changed false r.nodes u.changes.nodes ||
      Store.changed false r.edges u.changes.edges) = false ↔ u.Restates r := by
  simp only [changes, Bool.or_eq_false_iff, changed_text_eq_false, changed_tree_eq_false]
  constructor
  · rintro ⟨⟨⟨hname, hdescription⟩, hnodes⟩, hedges⟩
    exact ⟨hname, hdescription, hnodes, hedges⟩
  · rintro ⟨hname, hdescription, hnodes, hedges⟩
    exact ⟨⟨⟨hname, hdescription⟩, hnodes⟩, hedges⟩

theorem updatedAt_of_not_restates (h : ¬ u.Restates r) :
    (Store.revised false now r u).updatedAt = now :=
  if_pos ((Bool.not_eq_false _).mp (mt untouched_iff.mp h))

theorem getD_of_same {kept : String} {given : Option String}
    (h : ∀ s, given = some s → s = kept) : given.getD kept = kept := by
  cases given with
  | none => rfl
  | some s => exact h s rfl

theorem column_of_same {kept : Value} {given : Option (List Members)}
    (h : ∀ objects, given = some objects → (tree objects).sameAs false kept = true) :
    Store.column false kept given = kept := by
  cases given with
  | none => rfl
  | some objects => rw [Store.column, if_pos (h objects rfl)]

/-- What is restated stays as it is. -/
theorem Restates.revised_eq (h : u.Restates r) : Store.revised false now r u = r := by
  unfold Store.revised
  rw [getD_of_same h.name, getD_of_same h.description, column_of_same h.nodes,
    column_of_same h.edges, untouched_iff.mpr h]
  rfl

theorem Restates.fits (h : u.Restates r) : u.Fits r := by
  constructor
  · intro objects hgiven hdiffers
    exact absurd (h.nodes objects hgiven) (by simp [hdiffers])
  · intro objects hgiven hdiffers
    exact absurd (h.edges objects hgiven) (by simp [hdiffers])

/-- A tree counts as what is kept once it was passed, whether it took the place of the kept one or
counted as it before. -/
theorem sameAs_column {kept : Value} {given : Option (List Members)} {objects : List Members}
    (hgiven : given = some objects) (h : (tree objects).Regular) :
    (tree objects).sameAs false (Store.column false kept given) = true := by
  rw [hgiven, Store.column]
  split_ifs with hsame
  · exact hsame
  · exact Value.sameAs_self false h

/-- **An update restates what it leaves.** -/
theorem Regular.restates_revised (h : u.Regular) : u.Restates (Store.revised false now r u) where
  name s hs := by simp [Store.revised, hs]
  description s hs := by simp [Store.revised, hs]
  nodes objects hgiven := sameAs_column hgiven (h.nodes objects hgiven)
  edges objects hgiven := sameAs_column hgiven (h.edges objects hgiven)

theorem newTree_of_not_storable {kept : Value} {given : Option (List Members)}
    (h : ¬ Store.Storable false kept given) :
    Store.newTree false kept ((given.map tree).getD .null) = .error .unwritable := by
  simp only [Store.Storable, not_forall, Bool.not_eq_true] at h
  obtain ⟨objects, rfl, hdiffers, hwritable⟩ := h
  have hchanged : Store.changed false kept (tree objects) = true := by
    simpa [Store.changed, Value.given?, tree] using hdiffers
  have hrefused : (tree objects).checkWritable = .error .unwritable := by
    simp [Value.checkWritable, hwritable]
  rw [Option.map_some, Option.getD_some, Store.newTree, if_pos hchanged, hrefused]
  rfl

theorem revise_of_not_fits (h : ¬ u.Fits r) :
    Store.revise false now r u.changes = .error .unwritable := by
  have hnodes : u.changes.nodes = (u.nodes.map tree).getD .null := rfl
  have hedges : u.changes.edges = (u.edges.map tree).getD .null := rfl
  unfold Store.revise
  by_cases hfits : Store.Storable false r.nodes u.nodes
  · rw [hnodes, Store.newTree_eq_ok.mpr ⟨hfits, rfl⟩, hedges,
      newTree_of_not_storable fun hfits' => h ⟨hfits, hfits'⟩]
    rfl
  · rw [hnodes, newTree_of_not_storable hfits]
    rfl

end Revision

/-! ## One update -/

namespace Store

variable {s : Store} {id : String} {r : SavedRule}

theorem eq_of_mem_of_get? (hdistinct : (s.rules.map (·.id)).Nodup) (h : s.get? id = some r)
    {x : SavedRule} (hx : x ∈ s.rules) (hid : (x.id == id) = true) : x = r := by
  rw [mem_iff_get? hdistinct, beq_iff_eq.mp hid, h] at hx
  exact (Option.some.inj hx).symm

/-- A rule gives way to itself. -/
theorem replace_self (hdistinct : (s.rules.map (·.id)).Nodup) (h : s.get? id = some r) :
    s.replace id r = s := by
  have hsame : ∀ x ∈ s.rules, (if x.id == id then r else x) = x := by
    intro x hx
    split_ifs with hid
    · exact (eq_of_mem_of_get? hdistinct h hx hid).symm
    · rfl
  unfold replace
  rw [List.map_congr_left hsame, List.map_id']

/-- A rule that gives way to one of the same age is listed in its place. -/
theorem ids_list_replace {new : SavedRule} (hdistinct : (s.rules.map (·.id)).Nodup)
    (h : s.get? id = some r) (hid : new.id = r.id) (hcreated : new.createdAt = r.createdAt) :
    (s.replace id new).list.map (·.id) = s.list.map (·.id) := by
  have hkeeps : ∀ x ∈ s.rules, (if x.id == id then new else x).id = x.id ∧
      (if x.id == id then new else x).createdAt = x.createdAt := by
    intro x hx
    split_ifs with hsame
    · rw [eq_of_mem_of_get? hdistinct h hx hsame]
      exact ⟨hid, hcreated⟩
    · exact ⟨rfl, rfl⟩
  -- The order looks at nothing that differs between the two.
  have hlist : (s.replace id new).list =
      s.list.map fun x => if x.id == id then new else x := by
    unfold list replace
    refine (List.map_mergeSort ?_).symm
    intro a ha b hb
    rw [listedBefore, listedBefore, (hkeeps a ha).1, (hkeeps a ha).2, (hkeeps b hb).1,
      (hkeeps b hb).2]
  rw [hlist, List.map_map]
  apply List.map_congr_left
  intro x hx
  exact (hkeeps x (List.mem_mergeSort.mp hx)).1

end Store

namespace Database

variable {db : Database} {now : Timestamp} {id : String} {r : SavedRule} {u : Revision}

theorem perform_update_of_get?_none (h : db.store.get? id = none) (c : Changes) :
    db.perform now (.update id c) = (db, .noRule) := by
  simp only [perform]
  rw [Store.update_of_get?_none h]

theorem perform_update_of_not_fits (h : db.store.get? id = some r) (hfits : ¬ u.Fits r) :
    db.perform now (.update id u.changes) = (db, .refused .unwritable) := by
  simp only [perform]
  rw [Store.update_of_get? h, Revision.revise_of_not_fits hfits]
  rfl

theorem perform_update_of_fits (h : db.store.get? id = some r) (hfits : u.Fits r) :
    db.perform now (.update id u.changes) =
      ({ db with store := db.store.replace id (Store.revised false now r u) },
        .rule (Store.revised false now r u)) := by
  simp only [perform]
  rw [Store.update_of_get? h, Store.revise_eq_ok.mpr ⟨hfits.1, hfits.2, rfl⟩]
  rfl

/-- An update that restates a rule changes nothing. -/
theorem perform_update_of_restates (hdistinct : (db.store.rules.map (·.id)).Nodup)
    (h : db.store.get? id = some r) (hrestates : u.Restates r) :
    db.perform now (.update id u.changes) = (db, .rule r) := by
  rw [perform_update_of_fits h hrestates.fits, hrestates.revised_eq,
    Store.replace_self hdistinct h]

/-- No update, whatever it passes, changes the order of the rules. -/
theorem ids_list_update (hdistinct : (db.store.rules.map (·.id)).Nodup) (now : Timestamp)
    (id : String) (c : Changes) :
    (db.perform now (.update id c)).1.store.list.map (·.id) = db.store.list.map (·.id) := by
  cases hget : db.store.get? id with
  | none => rw [perform_update_of_get?_none hget]
  | some r =>
    simp only [perform]
    rw [Store.update_of_get? hget]
    cases hrevise : Store.revise false now r c with
    | error e => rfl
    | ok new =>
      obtain ⟨hid, hcreated, -⟩ := Store.revise_eq_ok_keeps hrevise
      exact Store.ids_list_replace hdistinct hget hid hcreated

end Database

/-! ## Runs -/

/-- A call that takes away the rule with an id. -/
def StoreCall.Removes (id : String) : StoreCall → Prop
  | .remove other => other = id
  | .clear => True
  | _ => False

namespace Records

variable {m m' : Records} {now : Timestamp} {fresh id : String} {call : StoreCall}
  {result : StoreResult} {turns : List Turn} {results : List StoreResult} {r : SavedRule}
  {clock : Int}

/-- Every rule was changed last when it was made or later, and not after a moment. -/
def Stamped (m : Records) (clock : Int) : Prop :=
  ∀ id r, m.lookup id = some r →
    r.createdAt.seconds ≤ r.updatedAt.seconds ∧ r.updatedAt.seconds ≤ clock

theorem Stamped.mono (h : m.Stamped clock) {clock' : Int} (hle : clock ≤ clock') :
    m.Stamped clock' :=
  fun id r hr => ⟨(h id r hr).1, (h id r hr).2.trans hle⟩

theorem Stamped.insert (h : m.Stamped clock) (hcreated : r.createdAt.seconds ≤ r.updatedAt.seconds)
    (hupdated : r.updatedAt.seconds ≤ clock) : Stamped (m.insert id r) clock := by
  intro other x hx
  by_cases hid : other = id
  · subst hid
    rw [Finmap.lookup_insert] at hx
    obtain rfl := Option.some.inj hx
    exact ⟨hcreated, hupdated⟩
  · rw [Finmap.lookup_insert_of_ne m hid] at hx
    exact h other x hx

theorem Stamped.erase (h : m.Stamped clock) (id : String) : Stamped (m.erase id) clock := by
  intro other x hx
  by_cases hid : other = id
  · rw [hid, Finmap.lookup_erase] at hx
    exact nomatch hx
  · rw [Finmap.lookup_erase_ne hid] at hx
    exact h other x hx

/-- A call at a moment leaves nothing that is later. -/
theorem Does.stamped (h : Does now fresh m call result m') (hm : m.Stamped now.seconds) :
    m'.Stamped now.seconds := by
  cases h with
  | added _ _ _ hcreated hupdated =>
    rw [← hcreated] at hm ⊢
    refine hm.insert ?_ ?_ <;> rw [hupdated, hcreated]
  | @updated id c old new hfound hrevised =>
    obtain ⟨hcreated, hupdated⟩ := hm id old hfound
    obtain ⟨-, hkept, hnow | hstays⟩ := Store.revise_eq_ok_keeps hrevised
    · exact hm.insert (by rw [hkept, hnow]; exact hcreated.trans hupdated) (by rw [hnow])
    · exact hm.insert (by rw [hkept, hstays]; exact hcreated) (by rw [hstays]; exact hupdated)
  | removed _ => exact hm.erase _
  | cleared => exact fun id r hr => nomatch hr
  | _ => exact hm

/-- Nor do any calls, if the clock does not go back. -/
theorem DoAll.stamped (h : DoAll m turns results m')
    (hclock : turns.Pairwise fun a b => a.now.seconds ≤ b.now.seconds)
    (hstart : ∀ t ∈ turns, m.Stamped t.now.seconds) (hm : m.Stamped clock)
    (hend : ∀ t ∈ turns, t.now.seconds ≤ clock) : m'.Stamped clock := by
  induction h with
  | nil m => exact hm
  | cons first _ ih =>
    obtain ⟨hfirst, -⟩ := List.forall_mem_cons.mp hstart
    obtain ⟨hlater, hrest⟩ := List.pairwise_cons.mp hclock
    obtain ⟨hend, hends⟩ := List.forall_mem_cons.mp hend
    -- The moment of the first call bounds what it leaves, and all later ones come after it.
    have hafter := first.stamped hfirst
    exact ih hrest (fun t ht => hafter.mono (hlater t ht)) (hafter.mono hend) hends

/-- A rule keeps its age until it is taken away. -/
theorem Does.createdAt (h : Does now fresh m call result m') (hfound : m.lookup id = some r)
    (hstays : ¬ call.Removes id) :
    ∃ r', m'.lookup id = some r' ∧ r'.createdAt = r.createdAt := by
  cases h with
  | @added given d rule hfree _ hnamed =>
    have hid : id ≠ rule.id := by
      rintro rfl
      rw [hnamed, hfree] at hfound
      exact nomatch hfound
    exact ⟨r, by rw [Finmap.lookup_insert_of_ne m hid, hfound], rfl⟩
  | @updated other c old new hold _ _ hcreated =>
    by_cases hid : id = other
    · subst hid
      obtain rfl := Option.some.inj (hold.symm.trans hfound)
      exact ⟨new, Finmap.lookup_insert m, hcreated⟩
    · exact ⟨r, by rw [Finmap.lookup_insert_of_ne m hid, hfound], rfl⟩
  | @removed other rule _ =>
    have hid : id ≠ other := Ne.symm hstays
    exact ⟨r, by rw [Finmap.lookup_erase_ne hid, hfound], rfl⟩
  | cleared => exact (hstays trivial).elim
  | _ => exact ⟨r, hfound, rfl⟩

theorem DoAll.createdAt (h : DoAll m turns results m') (hfound : m.lookup id = some r)
    (hstays : ∀ t ∈ turns, ¬ t.call.Removes id) :
    ∃ r', m'.lookup id = some r' ∧ r'.createdAt = r.createdAt := by
  induction h generalizing r with
  | nil m => exact ⟨r, hfound, rfl⟩
  | cons first _ ih =>
    obtain ⟨hfirst, hrest⟩ := List.forall_mem_cons.mp hstays
    obtain ⟨r', hfound', hcreated⟩ := first.createdAt hfound hfirst
    obtain ⟨r'', hfound'', hcreated'⟩ := ih hfound' hrest
    exact ⟨r'', hfound'', hcreated'.trans hcreated⟩

end Records

namespace Database

theorem takeAll_append (db : Database) (earlier later : List Turn) :
    (db.takeAll (earlier ++ later)).1 = ((db.takeAll earlier).1.takeAll later).1 := by
  induction earlier generalizing db with
  | nil => rfl
  | cons t rest ih => exact ih (db.take t).1

/-- Where a rule is as an update left it, the same update leaves everything as it is and has the
same answer. -/
theorem perform_update_again {db db' after : Database} {m : Records} {result : StoreResult}
    (h : db'.store.Holds m) {u : Revision} (hu : u.Regular) {id : String} {now : Timestamp}
    (hupdate : db.perform now (.update id u.changes) = (after, result))
    (hsame : db'.store.get? id = after.store.get? id) (now' : Timestamp) :
    db'.perform now' (.update id u.changes) = (db', result) := by
  cases hget : db.store.get? id with
  | none =>
    rw [perform_update_of_get?_none hget] at hupdate
    obtain ⟨rfl, rfl⟩ := Prod.mk.inj hupdate
    exact perform_update_of_get?_none (hsame.trans hget) _
  | some r =>
    by_cases hfits : u.Fits r
    · rw [perform_update_of_fits hget hfits] at hupdate
      obtain ⟨rfl, rfl⟩ := Prod.mk.inj hupdate
      have hid : (Store.revised false now r u).id = id := show r.id = id from Store.id_of_get? hget
      exact perform_update_of_restates h.distinct (hsame.trans (Store.get?_replace hget hid))
        hu.restates_revised
    · rw [perform_update_of_not_fits hget hfits] at hupdate
      obtain ⟨rfl, rfl⟩ := Prod.mk.inj hupdate
      exact perform_update_of_not_fits (hsame.trans hget) hfits

/-- A rule that was added is as old as its adding until it is taken away. -/
theorem createdAt_of_added {db : Database} {m : Records} (h : db.store.Holds m) {t : Turn}
    {given : Option String} {draft : Draft} {r : SavedRule} (hcall : t.call = .add given draft)
    (hadded : (db.take t).2 = .rule r) {later : List Turn}
    (hstays : ∀ t' ∈ later, ¬ t'.call.Removes r.id) :
    ∃ r', (db.takeAll (t :: later)).1.store.get? r.id = some r' ∧ r'.createdAt = t.now := by
  have hstart : ({ db with nextId := t.nextId } : Database).store.Holds m := h
  obtain ⟨m', hdoes, hafter⟩ := perform_does hstart t.now t.call
  obtain ⟨m'', hruns, hend⟩ := takeAll_does hafter later
  have hanswer : (({ db with nextId := t.nextId } : Database).perform t.now t.call).2 = .rule r :=
    hadded
  rw [hanswer, hcall] at hdoes
  cases hdoes with
  | added _ _ _ hcreated _ =>
    obtain ⟨r', hfound, hkept⟩ := hruns.createdAt (Finmap.lookup_insert m) hstays
    exact ⟨r', (hend.lookup _).symm.trans hfound, hkept.trans hcreated⟩

/-- **The moments of a rule follow its changes.** As long as the clock does not go back no rule was
changed before it was made or later than now. When it was made stays as it is until the rule is
taken away. An update that passes nothing new leaves everything as it is. One that passes something
that differs marks the rule with the moment of the update, unless it cannot be stored, and then it
leaves everything as it is. The same update at any later time, as long as the rule is as the first
one left it, changes nothing and has the same answer. Whatever an update passes, the rules are
listed in the order in which they were. -/
theorem moments_follow_changes {turns : List Turn}
    (hclock : turns.Pairwise fun a b => a.now.seconds ≤ b.now.seconds) :
    let db := (empty.takeAll turns).1
    (∀ clock : Timestamp, (∀ t ∈ turns, t.now.seconds ≤ clock.seconds) → ∀ r ∈ db.store.rules,
      r.createdAt.seconds ≤ r.updatedAt.seconds ∧ r.updatedAt.seconds ≤ clock.seconds) ∧
    (∀ earlier t later given draft r, turns = earlier ++ t :: later → t.call = .add given draft →
      ((empty.takeAll earlier).1.take t).2 = .rule r → (∀ t' ∈ later, ¬ t'.call.Removes r.id) →
      ∃ r', db.store.get? r.id = some r' ∧ r'.createdAt = t.now) ∧
    (∀ id now, ∀ u : Revision, ∀ r, db.store.get? id = some r →
      (u.Restates r → db.perform now (.update id u.changes) = (db, .rule r)) ∧
      (¬ u.Restates r → u.Fits r → ∃ after new,
        db.perform now (.update id u.changes) = (after, .rule new) ∧
          after.store.get? id = some new ∧ new.createdAt = r.createdAt ∧ new.updatedAt = now) ∧
      (¬ u.Restates r → ¬ u.Fits r →
        db.perform now (.update id u.changes) = (db, .refused .unwritable))) ∧
    (∀ id now, ∀ u : Revision, u.Regular → ∀ after result,
      db.perform now (.update id u.changes) = (after, result) → ∀ later now',
      (after.takeAll later).1.store.get? id = after.store.get? id →
        (after.takeAll later).1.perform now' (.update id u.changes) =
          ((after.takeAll later).1, result)) ∧
    ∀ id now c, (db.perform now (.update id c)).1.store.list.map (·.id) =
      db.store.list.map (·.id) := by
  intro db
  have hempty : empty.store.Holds ∅ := Store.holds_empty
  obtain ⟨m, hruns, hholds⟩ := takeAll_does hempty turns
  refine ⟨?_, ?_, ?_, ?_, ?_⟩
  · intro clock hend r hr
    have hnone : ∀ c, Records.Stamped ∅ c := fun _ _ _ hr => nomatch hr
    have hstamped := hruns.stamped hclock (fun _ _ => hnone _) (hnone _) hend
    exact hstamped r.id r (hholds.mem_iff.mp hr)
  · rintro earlier t later given draft r rfl hcall hadded hstays
    obtain ⟨m₁, -, hbefore⟩ := takeAll_does hempty earlier
    have hafter := createdAt_of_added hbefore hcall hadded hstays
    rwa [← takeAll_append] at hafter
  · intro id now u r hfound
    refine ⟨?_, ?_, ?_⟩
    · exact perform_update_of_restates hholds.distinct hfound
    · intro hchanges hfits
      have hid : (Store.revised false now r u).id = id :=
        show r.id = id from Store.id_of_get? hfound
      exact ⟨_, _, perform_update_of_fits hfound hfits, Store.get?_replace hfound hid, rfl,
        Revision.updatedAt_of_not_restates hchanges⟩
    · intro _
      exact perform_update_of_not_fits hfound
  · intro id now u hu after result hupdate later now' hsame
    obtain ⟨m', -, hafter⟩ := perform_does hholds now (.update id u.changes)
    rw [hupdate] at hafter
    obtain ⟨m'', -, hlater⟩ := takeAll_does hafter later
    exact perform_update_again hlater hu hupdate hsame now'
  · intro id now c
    exact ids_list_update hholds.distinct now id c

/-- A rule is added and listed. Passing `true` for its `1` is no change, a new name is one, and the
second time it is none. -/
theorem moments_follow_changes_counted :
    let draft : Draft := ⟨.text "Counted", .null, Store.counted.nodes, Store.counted.edges⟩
    let turns : List Turn := [⟨⟨2⟩, 1, .add (some "1") draft⟩, ⟨⟨3⟩, 2, .list⟩]
    let r : SavedRule := { Store.counted with createdAt := ⟨2⟩, updatedAt := ⟨2⟩ }
    let same : Revision := ⟨none, none, some [[("value", .list [.bool true, .null])]], none⟩
    let renamed : Revision := ⟨some "Renamed", none, none, none⟩
    ∃ db, (empty.takeAll turns).1 = db ∧ db.store.get? "1" = some r ∧ r.updatedAt.seconds ≤ 3 ∧
      (∃ r', db.store.get? "1" = some r' ∧ r'.createdAt = ⟨2⟩) ∧
      db.perform ⟨7⟩ (.update "1" same.changes) = (db, .rule r) ∧
      ∃ after new, db.perform ⟨7⟩ (.update "1" renamed.changes) = (after, .rule new) ∧
        new.createdAt = ⟨2⟩ ∧ new.updatedAt = ⟨7⟩ ∧
        after.perform ⟨9⟩ (.update "1" renamed.changes) = (after, .rule new) ∧
        after.store.list.map (·.id) = db.store.list.map (·.id) := by
  intro draft turns r same renamed
  have hclock : turns.Pairwise fun a b => a.now.seconds ≤ b.now.seconds := by decide
  have htake : empty.take ⟨⟨2⟩, 1, .add (some "1") draft⟩ = (⟨⟨[r]⟩, 1⟩, .rule r) :=
    Store.perform_add_counted 1 ⟨2⟩
  have hfound : (empty.takeAll turns).1.store.get? "1" = some r := by
    rw [takeAll, htake]
    rfl
  have hadded : ((empty.takeAll []).1.take ⟨⟨2⟩, 1, .add (some "1") draft⟩).2 = .rule r :=
    congrArg Prod.snd htake
  have hrestates : same.Restates r := by
    refine ⟨nofun, nofun, ?_, nofun⟩
    intro nodes hnodes
    obtain rfl := Option.some.inj hnodes
    decide
  have hdiffers : ¬ renamed.Restates r := by
    intro h
    exact absurd (h.name _ rfl) (by decide)
  obtain ⟨hstamped, hkept, hupdate, hagain, horder⟩ := moments_follow_changes hclock
  have hage := hkept [] _ [⟨⟨3⟩, 2, .list⟩] (some "1") draft r rfl rfl hadded
    (by simp [StoreCall.Removes])
  generalize (empty.takeAll turns).1 = db at *
  have hlate := hstamped ⟨3⟩ (by decide) r (List.mem_of_find?_eq_some hfound)
  obtain ⟨after, new, hafter, -, hcreated, hupdated⟩ :=
    (hupdate "1" ⟨7⟩ renamed r hfound).2.1 hdiffers ⟨nofun, nofun⟩
  have hlist := horder "1" ⟨7⟩ renamed.changes
  rw [hafter] at hlist
  exact ⟨db, rfl, hfound, hlate.2, hage, (hupdate "1" ⟨7⟩ same r hfound).1 hrestates, after, new,
    hafter, hcreated, hupdated, hagain "1" ⟨7⟩ renamed ⟨nofun, nofun⟩ _ _ hafter [] ⟨9⟩ rfl, hlist⟩

end Database

end Rulebook
