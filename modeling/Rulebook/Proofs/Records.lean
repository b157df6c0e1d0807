import Mathlib.Data.Finmap
import Rulebook.Proofs.Lookup

/-!
# The store is a finite map

A client of the database sees a finite map from ids to records. `Records.Does` says what each call
does to such a map and what it answers; it knows nothing of lists, of the order in which rules were
added or of how ids are looked up. The store keeps step with it (`Store.Holds.perform`): whatever is
called, at whatever moments and under whatever new ids, the answers are the ones that a map gives
and the store holds the map that is left.

A new id is made from a number that the database counts up. The calls here come with a number of
their own each, so that new ids may meet each other as well as ids that were handed over.
-/

set_option autoImplicit false

namespace Rulebook

/-- Records by id. -/
abbrev Records := Finmap fun _ : String => SavedRule

namespace SavedRule

/-- A rule is listed before another: it is older, or as old with a lesser id. -/
def Before (a b : SavedRule) : Prop :=
  a.createdAt.seconds < b.createdAt.seconds ∨
    a.createdAt.seconds = b.createdAt.seconds ∧ a.id < b.id

end SavedRule

namespace Records

/-- What a call does to records and what it answers. It comes at a moment, and `fresh` is the id
that is taken where none is given. -/
inductive Does (now : Timestamp) (fresh : String) :
    Records → StoreCall → StoreResult → Records → Prop
  | added {m : Records} {id : Option String} {d : Draft} {rule : SavedRule}
    (free : m.lookup (id.getD fresh) = none) (stored : d.StoredAs rule)
    (named : rule.id = id.getD fresh) (created : rule.createdAt = now)
    (updated : rule.updatedAt = now) :
    Does now fresh m (.add id d) (.rule rule) (m.insert rule.id rule)
  /-- The id is taken, or the draft cannot be kept. -/
  | notAdded {m : Records} {id : Option String} {d : Draft} {e : StoreError}
    (unfit : m.lookup (id.getD fresh) ≠ none ∨ ∀ rule, ¬ d.StoredAs rule) :
    Does now fresh m (.add id d) (.refused e) m
  | fetched {m : Records} {id : String} {rule : SavedRule} (found : m.lookup id = some rule) :
    Does now fresh m (.fetch id) (.rule rule) m
  | notFetched {m : Records} {id : String} (missing : m.lookup id = none) :
    Does now fresh m (.fetch id) .noRule m
  /-- Every record is listed; in this order none can be listed twice. -/
  | listed {m : Records} {rules : List SavedRule} (sorted : rules.Pairwise SavedRule.Before)
    (all : ∀ r, r ∈ rules ↔ m.lookup r.id = some r) : Does now fresh m .list (.rules rules) m
  | updated {m : Records} {id : String} {c : Changes} {old new : SavedRule}
    (found : m.lookup id = some old) (revised : Store.revise false now old c = .ok new)
    (named : new.id = id) (created : new.createdAt = old.createdAt) :
    Does now fresh m (.update id c) (.rule new) (m.insert id new)
  | notUpdated {m : Records} {id : String} {c : Changes} (missing : m.lookup id = none) :
    Does now fresh m (.update id c) .noRule m
  /-- The changes cannot be kept. -/
  | updateRefused {m : Records} {id : String} {c : Changes} {old : SavedRule} {e : StoreError}
    (found : m.lookup id = some old) (unfit : Store.revise false now old c = .error e) :
    Does now fresh m (.update id c) (.refused e) m
  | removed {m : Records} {id : String} {rule : SavedRule} (found : m.lookup id = some rule) :
    Does now fresh m (.remove id) (.removed true) (m.erase id)
  | notRemoved {m : Records} {id : String} (missing : m.lookup id = none) :
    Does now fresh m (.remove id) (.removed false) m
  | cleared {m : Records} : Does now fresh m .clear .cleared ∅

end Records

/-! ## One call -/

/-- A store holds the records of a map: no id twice, and under each id what the map has there. -/
structure Store.Holds (s : Store) (m : Records) : Prop where
  distinct : (s.rules.map (·.id)).Nodup
  lookup : ∀ id, m.lookup id = s.get? id

/-- Where no key is there twice, every element is found by its key. -/
theorem find?_key_of_mem {α : Type} (key : α → String) {as : List α} (h : (as.map key).Nodup)
    {a : α} (ha : a ∈ as) : as.find? (key · == key a) = some a := by
  cases hfound : as.find? (key · == key a) with
  | none => exact absurd (beq_self_eq_true (key a)) (List.find?_eq_none.mp hfound a ha)
  | some b =>
    have hkey : key b = key a := by simpa using List.find?_some hfound
    rw [List.inj_on_of_nodup_map h (List.mem_of_find?_eq_some hfound) ha hkey]

namespace Store

variable {s : Store} {m : Records} {now : Timestamp} {id : String} {r new : SavedRule}

theorem holds_empty : empty.Holds ∅ := ⟨List.nodup_nil, fun _ => rfl⟩

theorem mem_iff_get? (h : (s.rules.map (·.id)).Nodup) : r ∈ s.rules ↔ s.get? r.id = some r :=
  ⟨find?_key_of_mem SavedRule.id h, List.mem_of_find?_eq_some⟩

theorem Holds.mem_iff (h : s.Holds m) : r ∈ s.rules ↔ m.lookup r.id = some r := by
  rw [h.lookup, mem_iff_get? h.distinct]

/-- What is found after an id has got another rule, or none, is what the map has there. -/
theorem Holds.concat (h : s.Holds m) (hfree : s.get? r.id = none) :
    Store.Holds ⟨s.rules ++ [r]⟩ (m.insert r.id r) := by
  constructor
  · rw [List.map_append, List.map_singleton, List.nodup_append_comm, List.singleton_append,
      List.nodup_cons]
    refine ⟨?_, h.distinct⟩
    intro hmem
    obtain ⟨x, hx, hid⟩ := List.mem_map.mp hmem
    exact List.find?_eq_none.mp hfree x hx (beq_iff_eq.mpr hid)
  · intro id
    rw [get?_concat hfree]
    split_ifs with hid
    · rw [hid, Finmap.lookup_insert]
    · rw [Finmap.lookup_insert_of_ne m hid, h.lookup]

theorem Holds.replace (h : s.Holds m) (hfound : s.get? id = some r) (hnew : new.id = id) :
    (s.replace id new).Holds (m.insert id new) := by
  constructor
  · have hids : (s.replace id new).rules.map (·.id) = s.rules.map (·.id) := by
      unfold Store.replace
      rw [List.map_map]
      apply List.map_congr_left
      intro x _
      by_cases hx : x.id = id
      · simp [hx, hnew]
      · simp [hx]
    rw [hids]
    exact h.distinct
  · intro other
    rw [get?_replace_eq hfound hnew]
    split_ifs with hid
    · rw [hid, Finmap.lookup_insert]
    · rw [Finmap.lookup_insert_of_ne m hid, h.lookup]

theorem Holds.remove (h : s.Holds m) (id : String) : (s.remove id).2.Holds (m.erase id) := by
  constructor
  · exact h.distinct.sublist (List.Sublist.map _ List.filter_sublist)
  · intro other
    rw [get?_remove]
    split_ifs with hid
    · rw [hid, Finmap.lookup_erase]
    · rw [Finmap.lookup_erase_ne hid, h.lookup]

/-! ### Listing -/

theorem listedBefore_iff {a b : SavedRule} :
    listedBefore a b = true ↔ a.createdAt.seconds < b.createdAt.seconds ∨
      a.createdAt.seconds = b.createdAt.seconds ∧ ¬ b.id < a.id := by
  simp [listedBefore]

theorem listedBefore_trans (a b c : SavedRule) (hab : listedBefore a b = true)
    (hbc : listedBefore b c = true) : listedBefore a c = true := by
  rw [listedBefore_iff, String.not_lt] at *
  rcases hab with hab | ⟨hab, hid⟩
  · rcases hbc with hbc | ⟨hbc, -⟩
    · exact .inl (hab.trans hbc)
    · exact .inl (hbc ▸ hab)
  · rcases hbc with hbc | ⟨hbc, hid'⟩
    · exact .inl (hab ▸ hbc)
    · exact .inr ⟨hab.trans hbc, String.le_trans hid hid'⟩

theorem listedBefore_total (a b : SavedRule) : (listedBefore a b || listedBefore b a) = true := by
  rw [Bool.or_eq_true, listedBefore_iff, listedBefore_iff, String.not_lt, String.not_lt]
  rcases lt_trichotomy a.createdAt.seconds b.createdAt.seconds with h | h | h
  · exact .inl (.inl h)
  · rcases String.le_total a.id b.id with hid | hid
    · exact .inl (.inr ⟨h, hid⟩)
    · exact .inr (.inr ⟨h.symm, hid⟩)
  · exact .inr (.inl h)

/-- Rules with different ids are listed in a strict order. -/
theorem Holds.list_sorted (h : s.Holds m) : s.list.Pairwise SavedRule.Before := by
  have hperm : s.list.Perm s.rules := List.mergeSort_perm s.rules listedBefore
  have hsorted := List.pairwise_mergeSort listedBefore_trans listedBefore_total s.rules
  have hdistinct : s.list.Pairwise fun a b => a.id ≠ b.id := by
    rw [← List.pairwise_map]
    exact (hperm.map (·.id)).nodup_iff.mpr h.distinct
  refine hsorted.imp₂ ?_ hdistinct
  intro a b hab hne
  rcases listedBefore_iff.mp hab with hlt | ⟨heq, hid⟩
  · exact .inl hlt
  · refine .inr ⟨heq, String.not_le.mp ?_⟩
    intro hle
    exact hne (String.le_antisymm (String.not_lt.mp hid) hle)

/-! ### Updating -/

/-- Whatever an update changes in a rule, it is the same rule: its id and its age stay, and it is
marked as changed at the time of the update if at all. -/
theorem revise_eq_ok_keeps {oneNaN : Bool} {old : SavedRule} {c : Changes}
    (h : revise oneNaN now old c = .ok new) : new.id = old.id ∧ new.createdAt = old.createdAt ∧
      (new.updatedAt = now ∨ new.updatedAt = old.updatedAt) := by
  obtain ⟨nodes, -, h⟩ := bind_eq_ok.mp h
  obtain ⟨edges, -, h⟩ := bind_eq_ok.mp h
  obtain ⟨name, -, h⟩ := bind_eq_ok.mp h
  obtain ⟨description, -, h⟩ := bind_eq_ok.mp h
  obtain ⟨name, -, h⟩ := bind_eq_ok.mp h
  obtain ⟨description, -, h⟩ := bind_eq_ok.mp h
  obtain rfl := Except.ok.inj h
  exact ⟨rfl, rfl, ite_eq_or_eq _ _ _⟩

end Store

namespace Database

variable {db : Database} {m : Records} {now : Timestamp}

theorem perform_add_does (h : db.store.Holds m) (id : Option String) (d : Draft) :
    ∃ m', Records.Does now (idOf db.nextId) m (.add id d) (db.perform now (.add id d)).2 m' ∧
      (db.perform now (.add id d)).1.store.Holds m' := by
  simp only [perform, Database.add]
  cases hadd : db.store.add now (id.getD (idOf db.nextId)) d with
  | ok p =>
    obtain ⟨store, rule⟩ := p
    obtain ⟨hfree, hstored, hid, hcreated, hupdated, rfl⟩ := Store.add_eq_ok.mp hadd
    rw [Store.contains_eq_false] at hfree
    refine ⟨m.insert rule.id rule, .added ?_ hstored hid hcreated hupdated, ?_⟩
    · rw [h.lookup, hfree]
    · exact h.concat (hid ▸ hfree)
  | error e =>
    have hfails : ¬ (db.store.get? (id.getD (idOf db.nextId)) = none ∧
        ∃ rule, d.StoredAs rule) := by
      intro hfits
      have hadded : ∃ p, db.store.add now (id.getD (idOf db.nextId)) d = .ok p :=
        Store.exists_add_eq_ok.mpr hfits
      rw [hadd] at hadded
      obtain ⟨p, hadded⟩ := hadded
      cases hadded
    refine ⟨m, .notAdded ?_, ?_⟩
    · rw [not_and_or, not_exists] at hfails
      rw [h.lookup]
      exact hfails
    · cases id <;> exact h

theorem perform_update_does (h : db.store.Holds m) (id : String) (c : Changes) :
    ∃ m', Records.Does now (idOf db.nextId) m (.update id c) (db.perform now (.update id c)).2 m' ∧
      (db.perform now (.update id c)).1.store.Holds m' := by
  simp only [perform]
  cases hget : db.store.get? id with
  | none =>
    rw [Store.update_of_get?_none hget]
    exact ⟨m, .notUpdated (by rw [h.lookup, hget]), h⟩
  | some old =>
    have hfound : m.lookup id = some old := by rw [h.lookup, hget]
    rw [Store.update_of_get? hget]
    cases hrevise : Store.revise false now old c with
    | error e => exact ⟨m, .updateRefused hfound hrevise, h⟩
    | ok new =>
      obtain ⟨hid, hcreated, -⟩ := Store.revise_eq_ok_keeps hrevise
      have hnew : new.id = id := hid.trans (Store.id_of_get? hget)
      exact ⟨m.insert id new, .updated hfound hrevise hnew hcreated, h.replace hget hnew⟩

theorem perform_remove_does (h : db.store.Holds m) (id : String) :
    ∃ m', Records.Does now (idOf db.nextId) m (.remove id) (db.perform now (.remove id)).2 m' ∧
      (db.perform now (.remove id)).1.store.Holds m' := by
  have hafter := h.remove id
  have hanswer := Store.remove_fst db.store id
  simp only [perform]
  cases hget : db.store.get? id with
  | none =>
    rw [hget] at hanswer
    rw [Store.remove_of_get?_none hget, hanswer]
    exact ⟨m, .notRemoved (by rw [h.lookup, hget]), h⟩
  | some r =>
    rw [hget] at hanswer
    rw [hanswer]
    exact ⟨m.erase id, .removed (by rw [h.lookup, hget]), hafter⟩

/-- **A step.** A call does to the store what it does to the map that the store holds, and it
answers the same. -/
theorem perform_does (h : db.store.Holds m) (now : Timestamp) (call : StoreCall) :
    ∃ m', Records.Does now (idOf db.nextId) m call (db.perform now call).2 m' ∧
      (db.perform now call).1.store.Holds m' := by
  cases call with
  | add id d => exact perform_add_does h id d
  | fetch id =>
    simp only [perform]
    cases hget : db.store.get? id with
    | none => exact ⟨m, .notFetched (by rw [h.lookup, hget]), h⟩
    | some rule => exact ⟨m, .fetched (by rw [h.lookup, hget]), h⟩
  | list =>
    refine ⟨m, .listed h.list_sorted ?_, h⟩
    intro r
    rw [← h.mem_iff]
    exact List.mem_mergeSort
  | update id c => exact perform_update_does h id c
  | remove id => exact perform_remove_does h id
  | clear => exact ⟨∅, .cleared, Store.holds_empty⟩

end Database

/-! ## Any calls -/

/-- A call at a moment, with the number from which a new id is made. -/
structure Turn where
  now : Timestamp
  nextId : Nat
  call : StoreCall

/-- A call that found nothing to work on, or was refused. -/
def StoreResult.Failed : StoreResult → Prop
  | .noRule | .removed false | .refused _ => True
  | _ => False

namespace Database

/-- What a call with its own number for a new id does. -/
def take (db : Database) (t : Turn) : Database × StoreResult :=
  perform { db with nextId := t.nextId } t.now t.call

/-- What some calls do, one after the other, with their answers. -/
def takeAll (db : Database) : List Turn → Database × List StoreResult
  | [] => (db, [])
  | t :: rest =>
    let (db, result) := db.take t
    let (db, results) := db.takeAll rest
    (db, result :: results)

end Database

/-- What some calls do to records, one after the other, with their answers. -/
inductive Records.DoAll : Records → List Turn → List StoreResult → Records → Prop
  | nil (m : Records) : DoAll m [] [] m
  | cons {m m' m'' : Records} {t : Turn} {turns : List Turn} {result : StoreResult}
    {results : List StoreResult}
    (first : Does t.now (Database.idOf t.nextId) m t.call result m')
    (rest : DoAll m' turns results m'') : DoAll m (t :: turns) (result :: results) m''

namespace Database

variable {db : Database} {m : Records}

/-- The store keeps step with the map through any calls. -/
theorem takeAll_does (h : db.store.Holds m) (turns : List Turn) :
    ∃ m', Records.DoAll m turns (db.takeAll turns).2 m' ∧
      (db.takeAll turns).1.store.Holds m' := by
  induction turns generalizing db m with
  | nil => exact ⟨m, .nil m, h⟩
  | cons t rest ih =>
    have hstart : ({ db with nextId := t.nextId } : Database).store.Holds m := h
    obtain ⟨m', hdoes, hholds⟩ := perform_does hstart t.now t.call
    obtain ⟨m'', hrest, hafter⟩ := ih hholds
    exact ⟨m'', .cons hdoes hrest, hafter⟩

/-- A call that fails leaves the store as it is, with everything in its place. -/
theorem store_take_of_failed {t : Turn} (h : (db.take t).2.Failed) :
    (db.take t).1.store = db.store := by
  obtain ⟨now, nextId, call⟩ := t
  unfold take at *
  cases call with
  | add id d =>
    simp only [perform, Database.add] at h ⊢
    cases hadd : db.store.add now (id.getD (idOf nextId)) d with
    | ok p =>
      rw [hadd] at h
      exact h.elim
    | error e => cases id <;> rfl
  | fetch id =>
    simp only [perform]
    cases db.store.get? id <;> rfl
  | list => rfl
  | update id c =>
    simp only [perform] at h ⊢
    cases hget : db.store.get? id with
    | none => rw [Store.update_of_get?_none hget]
    | some old =>
      rw [Store.update_of_get? hget] at h ⊢
      cases hrevise : Store.revise false now old c with
      | error e => rfl
      | ok new =>
        rw [hrevise] at h
        exact h.elim
  | remove id =>
    simp only [perform] at h ⊢
    have hanswer := Store.remove_fst db.store id
    cases hget : db.store.get? id with
    | none => exact Store.remove_of_get?_none hget
    | some r =>
      rw [hanswer, hget] at h
      exact h.elim
  | clear => exact h.elim

/-- **The store is a finite map.** From an empty store on, any calls at any moments get the answers
that a map from ids to records gives them, and the store holds what is left of the map: each record
once, under its own id. After any of them, a call that fails changes nothing at all. -/
theorem takeAll_refines (turns : List Turn) :
    (∃ m, Records.DoAll ∅ turns (empty.takeAll turns).2 m ∧
      (empty.takeAll turns).1.store.Holds m) ∧
    ∀ t, ((empty.takeAll turns).1.take t).2.Failed →
      ((empty.takeAll turns).1.take t).1.store = (empty.takeAll turns).1.store :=
  ⟨takeAll_does Store.holds_empty turns, fun _ => store_take_of_failed⟩

end Database

end Rulebook
