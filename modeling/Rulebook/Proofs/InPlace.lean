import Rulebook.Proofs.Assigning

/-!
# Assignments in place are atomic

An assignment in place makes missing objects, and puts objects in the place of null, before it knows
whether it can go on further down. It still leaves nothing behind when it fails. What is below an
object that was just made is empty, and where nothing is nothing stops an assignment: so as long as
one can still fail, it has changed nothing.

`Value.assignFrom_eq` says this for every point of the way, `Value.assignInPlace_eq` for the whole.
When an assignment fails is said by what is found in the tree before it (`Value.BlockedAt`).
-/

set_option autoImplicit false

namespace Rulebook

namespace Value

variable {tree v w : Value} {ms : Members} {key : String} {place : List String}

/-! ## What is there -/

theorem at?_append (v : Value) (p q : List String) : v.at? (p ++ q) = (v.at? p).bind (·.at? q) := by
  induction p generalizing v with
  | nil => rfl
  | cons key rest ih =>
    cases v with
    | object ms =>
      show (Members.get? ms key).bind (·.at? (rest ++ q)) = _
      simp only [ih, at?, Option.bind_assoc]
    | _ => rfl

theorem at?_key (ms : Members) (key : String) : (Value.object ms).at? [key] = ms.get? key :=
  Option.bind_fun_some (ms.get? key)

/-- Below an object is what it has under a key. -/
theorem at?_concat (h : tree.at? place = some (.object ms)) (key : String) :
    tree.at? (place ++ [key]) = ms.get? key := by
  rw [at?_append, h]
  exact at?_key ms key

theorem follow_absent (keys : List String) : Value.absent.follow keys = .absent := by
  induction keys with
  | nil => rfl
  | cons key rest ih => exact ih

/-- A sequence of keys leads to what is there, and to nothing where nothing is. -/
theorem follow_eq (v : Value) (keys : List String) : v.follow keys = (v.at? keys).getD .absent := by
  induction keys generalizing v with
  | nil => rfl
  | cons key rest ih =>
    cases v with
    | object ms =>
      show (((Members.get? ms key).getD .absent).follow rest) = _
      cases hget : Members.get? ms key with
      | none => simp [at?, hget, follow_absent]
      | some below => simp [at?, hget, ih]
    | _ => exact follow_absent rest

/-! ## Putting -/

/-- What is there on the way to a value that is there. -/
theorem exists_of_at?_cons {rest : List String} (h : tree.at? (key :: rest) = some w) :
    ∃ (ms : Members) (below : Value),
      tree = .object ms ∧ ms.get? key = some below ∧ below.at? rest = some w := by
  cases tree with
  | object ms =>
    obtain ⟨below, hbelow, hw⟩ := Option.bind_eq_some_iff.mp h
    exact ⟨ms, below, rfl, hbelow, hw⟩
  | _ => exact nomatch h

theorem put_cons {below : Value} (h : ms.get? key = some below) (v : Value) (rest : List String) :
    (Value.object ms).put v (key :: rest) = .object (ms.insert key (below.put v rest)) := by
  simp [put, h]

/-- Putting what is there changes nothing. -/
theorem put_of_at? (h : tree.at? place = some v) : tree.put v place = tree := by
  induction place generalizing tree with
  | nil => exact (Option.some.inj h).symm
  | cons key rest ih =>
    obtain ⟨ms, below, rfl, hget, hbelow⟩ := exists_of_at?_cons h
    rw [put_cons hget, ih hbelow, Members.insert_of_get? hget]

theorem at?_put (h : tree.at? place = some w) (v : Value) :
    (tree.put v place).at? place = some v := by
  induction place generalizing tree with
  | nil => rfl
  | cons key rest ih =>
    obtain ⟨ms, below, rfl, hget, hbelow⟩ := exists_of_at?_cons h
    rw [put_cons hget]
    show (Members.get? (ms.insert key (below.put v rest)) key).bind (·.at? rest) = some v
    rw [Members.get?_insert_self, Option.bind_some, ih hbelow]

/-- Of two values that are put in a place the later one counts. -/
theorem put_put (h : tree.at? place = some w) (u v : Value) :
    (tree.put u place).put v place = tree.put v place := by
  induction place generalizing tree with
  | nil => rfl
  | cons key rest ih =>
    obtain ⟨ms, below, rfl, hget, hbelow⟩ := exists_of_at?_cons h
    rw [put_cons hget, put_cons hget, put_cons (Members.get?_insert_self _ _ _), ih hbelow,
      Members.insert_insert]

/-- Putting a value under a key of an object is putting the object that has it there. -/
theorem put_concat (h : tree.at? place = some (.object ms)) (key : String) (v : Value) :
    tree.put v (place ++ [key]) = tree.put (.object (ms.insert key v)) place := by
  induction place generalizing tree with
  | nil =>
    obtain rfl : tree = .object ms := Option.some.inj h
    rfl
  | cons k rest ih =>
    obtain ⟨ns, below, rfl, hget, hbelow⟩ := exists_of_at?_cons h
    rw [List.cons_append, put_cons hget, put_cons hget, ih hbelow]

/-! ## One key after the other -/

/-- One key of an assignment in place. An object that is there already may be put there as well. -/
theorem assignFrom_cons (path : String) (v tree : Value) (place : List String) (key next : String)
    (rest : List String) :
    assignFrom path v tree place (key :: next :: rest) =
      match Slot.members? (tree.at? (place ++ [key])) with
      | some inner =>
        assignFrom path v (tree.put (.object inner) (place ++ [key])) (place ++ [key])
          (next :: rest)
      | none =>
        (tree, .error (.blocked path key ((tree.at? (place ++ [key])).getD .null))) := by
  rw [assignFrom]
  · cases hheld : tree.at? (place ++ [key]) with
    | none => rfl
    | some held =>
      cases held with
      | object inner =>
        show assignFrom path v tree (place ++ [key]) (next :: rest) =
          assignFrom path v (tree.put (.object inner) (place ++ [key])) _ _
        rw [put_of_at? hheld]
      | _ => rfl
  · simp

/-- **What an assignment in place comes to from any point of its way.** The object that it has come
to is replaced by what an assignment of the keys that are left makes of it; with an obstacle ahead
that is the object itself. -/
theorem assignFrom_eq (path : String) (v : Value) (keys : List String) :
    ∀ {tree : Value} {place : List String} {ms : Members} (key name : String),
      tree.at? place = some (.object ms) →
      assignFrom path v tree place (key :: keys) =
        (tree.put (Slot.set v (some (.object ms)) (key :: keys)) place,
          match Slot.obstacle? name (some (.object ms)) (key :: keys) with
          | some (blocking, held) => .error (.blocked path blocking held)
          | none => .ok ()) := by
  induction keys with
  | nil =>
    intro tree place ms key name h
    rw [assignFrom, put_concat h]
    rfl
  | cons next rest ih =>
    intro tree place ms key name h
    rw [assignFrom_cons, at?_concat h, Slot.obstacle?_cons_some (Slot.members?_object ms)]
    cases hms : Slot.members? (ms.get? key) with
    | none =>
      cases hget : ms.get? key with
      | none => simp [hget, Slot.members?] at hms
      | some held =>
        rw [hget] at hms
        have hobstacle : Slot.obstacle? name (some (.object ms)) (key :: next :: rest) =
            some (key, held) := by
          rw [Slot.obstacle?_cons_some (Slot.members?_object ms), hget, Slot.obstacle?, hms]
          rfl
        have hkept : Slot.set v (some (.object ms)) (key :: next :: rest) = .object ms :=
          Option.some.inj (Slot.set_of_obstacle? hobstacle)
        rw [hkept, put_of_at? h, Slot.obstacle?, hms]
        rfl
    | some inner =>
      -- The object under the key is there or is made, and the way goes on in it.
      have hopened := put_concat h key (.object inner)
      have hplace := at?_put h (.object (ms.insert key (.object inner)))
      have hbelow : (tree.put (.object inner) (place ++ [key])).at? (place ++ [key]) =
          some (.object inner) := by
        rw [hopened, at?_concat hplace, Members.get?_insert_self]
      show assignFrom path v (tree.put (.object inner) (place ++ [key])) (place ++ [key])
        (next :: rest) = _
      rw [ih next key hbelow, hopened, put_concat hplace, Members.insert_insert, put_put h,
        Slot.set_cons_some (Slot.members?_object ms), Slot.set_cons_some hms,
        Slot.set_cons_some (Slot.members?_object inner), Slot.obstacle?_cons_some hms,
        Slot.obstacle?_cons_some (Slot.members?_object inner)]

/-- An assignment in place to an object leaves what `Slot.set` says, also when it fails. -/
theorem assignInPlace_object {path : String} (hpath : Text.isBlankText path = false) (ms : Members)
    (v : Value) (name : String) :
    (Value.object ms).assignInPlace path v =
      (Slot.set v (some (.object ms)) (Path.segments path),
        match Slot.obstacle? name (some (.object ms)) (Path.segments path) with
        | some (blocking, held) => .error (.blocked path blocking held)
        | none => .ok ()) := by
  obtain ⟨key, rest, hkeys⟩ := List.exists_cons_of_ne_nil (Path.segments_ne_nil path)
  unfold assignInPlace
  rw [if_neg (by simp [hpath])]
  show assignFrom path v (.object ms) [] (Path.segments path) = _
  rw [hkeys, assignFrom_eq path v rest key name rfl]
  rfl

/-- **In place and at once.** An assignment in place leaves the tree that an assignment gives, and
where that one fails it leaves the tree as it was. -/
theorem assignInPlace_eq (tree : Value) (path : String) (v : Value) :
    tree.assignInPlace path v =
      match tree.assign path v with
      | .ok changed => (changed, .ok ())
      | .error e => (tree, .error e) := by
  cases hpath : Text.isBlankText path with
  | true => simp [assignInPlace, assign, hpath]
  | false =>
    cases tree with
    | object ms =>
      rw [assignInPlace_object hpath ms v "", assign_object hpath ms ""]
      cases hobstacle : Slot.obstacle? "" (some (.object ms)) (Path.segments path) with
      | none => rfl
      | some blocking => exact congrArg (·, _) (Option.some.inj (Slot.set_of_obstacle? hobstacle))
    | _ =>
      unfold assignInPlace assign
      rw [if_neg (by simp [hpath]), if_neg (by simp [hpath])]
      dsimp only
      split_ifs <;> rfl

end Value

/-! ## Where an assignment stops -/

namespace Slot

variable {slot : Slot} {ms : Members} {key name : String} {held : Value} {keys place : List String}

/-- Below a place that can be opened is what is in its members. -/
theorem bind_at?_cons (h : members? slot = some ms) (key : String) (rest : List String) :
    slot.bind (·.at? (key :: rest)) = (ms.get? key).bind (·.at? rest) := by
  cases slot with
  | none =>
    obtain rfl : [] = ms := Option.some.inj h
    rfl
  | some held =>
    cases held with
    | object inner =>
      obtain rfl : inner = ms := Option.some.inj h
      rfl
    | null =>
      obtain rfl : [] = ms := Option.some.inj h
      rfl
    | _ => exact nomatch h

/-- A value on the way that stops assignments is an obstacle, or there is one before it. -/
theorem exists_obstacle? (hleads : place <+: keys) (hshort : place ≠ keys)
    (hfound : slot.bind (·.at? place) = some held) (hstops : members? (some held) = none) :
    ∃ blocking, obstacle? name slot keys = some blocking := by
  induction keys generalizing slot name place with
  | nil => exact absurd (List.prefix_nil.mp hleads) hshort
  | cons key rest ih =>
    cases hms : members? slot with
    | none =>
      cases slot with
      | none => exact absurd hms (Option.some_ne_none _)
      | some held => exact ⟨(name, held), by rw [obstacle?, hms]; rfl⟩
    | some ms =>
      rw [obstacle?_cons_some hms]
      cases place with
      | nil =>
        obtain rfl : slot = some held := (Option.bind_fun_some slot).symm.trans hfound
        exact absurd (hms.symm.trans hstops) (Option.some_ne_none _)
      | cons k place =>
        obtain ⟨rfl, hrest⟩ := List.cons_prefix_cons.mp hleads
        rw [bind_at?_cons hms] at hfound
        exact ih hrest (fun e => hshort (congrArg (k :: ·) e)) hfound

/-- An obstacle is the first value on the way that stops assignments, and it is named by the key
that leads to it. -/
theorem exists_of_obstacle? (h : obstacle? name slot keys = some (key, held)) :
    ∃ place, place <+: keys ∧ place ≠ keys ∧ slot.bind (·.at? place) = some held ∧
      members? (some held) = none ∧ place.getLast?.getD name = key ∧
      ∀ other v, other <+: keys → slot.bind (·.at? other) = some v → members? (some v) = none →
        place.length ≤ other.length := by
  induction keys generalizing slot name with
  | nil => exact nomatch h
  | cons k rest ih =>
    cases hms : members? slot with
    | none =>
      rw [obstacle?, hms] at h
      cases slot with
      | none => exact absurd h.symm (Option.some_ne_none _)
      | some v =>
        obtain ⟨rfl, rfl⟩ := Prod.mk.inj (Option.some.inj h)
        refine ⟨[], List.nil_prefix, (List.cons_ne_nil k rest).symm, rfl, hms, rfl, ?_⟩
        exact fun _ _ _ _ _ => Nat.zero_le _
    | some ms =>
      rw [obstacle?_cons_some hms] at h
      obtain ⟨place, hleads, hshort, hfound, hstops, hlast, hfirst⟩ := ih h
      refine ⟨k :: place, List.cons_prefix_cons.mpr ⟨rfl, hleads⟩, ?_, ?_, hstops, ?_, ?_⟩
      · exact fun e => hshort (List.cons.inj e).2
      · rw [bind_at?_cons hms, hfound]
      · rw [List.getLast?_cons, Option.getD_some, hlast]
      · intro other v hother hthere hv
        cases other with
        | nil =>
          obtain rfl : slot = some v := (Option.bind_fun_some slot).symm.trans hthere
          exact absurd (hms.symm.trans hv) (Option.some_ne_none _)
        | cons k' other =>
          obtain ⟨rfl, hrest⟩ := List.cons_prefix_cons.mp hother
          rw [bind_at?_cons hms] at hthere
          exact Nat.succ_le_succ (hfirst other v hrest hthere hv)

end Slot

namespace Value

/-- A value that no assignment can go through: it is neither null nor an object. -/
def Stops (held : Value) : Prop :=
  held ≠ .null ∧ held.members? = none

theorem stops_iff {held : Value} : held.Stops ↔ Slot.members? (some held) = none := by
  cases held <;> simp [Stops, Slot.members?, members?]

/-- On the way of some keys, before its end, stands a value that stops assignments. -/
structure BlockedAt (tree : Value) (keys place : List String) (held : Value) : Prop where
  begun : place ≠ []
  onTheWay : place <+: keys
  short : place ≠ keys
  found : tree.at? place = some held
  stops : held.Stops

/-- What blocks the way is what is read there. -/
theorem BlockedAt.follow {tree held : Value} {keys place : List String}
    (h : tree.BlockedAt keys place held) : tree.follow place = held := by
  rw [follow_eq, h.found, Option.getD_some]

/-- The first of the values that block the way of some keys, and the key that leads to it. -/
structure FirstBlockedAt (tree : Value) (keys place : List String) (key : String) (held : Value) :
    Prop where
  blocked : tree.BlockedAt keys place held
  last : place.getLast? = some key
  shortest : ∀ other w, tree.BlockedAt keys other w → place.length ≤ other.length

section Object

variable {ms : Members} {path key : String} {keys place : List String} {held : Value}

/-- An obstacle on the way from an object is the first value that blocks it. -/
theorem firstBlockedAt_of_obstacle? {name : String}
    (h : Slot.obstacle? name (some (.object ms)) keys = some (key, held)) :
    ∃ place, (object ms).FirstBlockedAt keys place key held := by
  obtain ⟨place, hleads, hshort, hfound, hstops, hlast, hfirst⟩ := Slot.exists_of_obstacle? h
  have hfound : (object ms).at? place = some held := hfound
  have hbegun : place ≠ [] := by
    rintro rfl
    obtain rfl : object ms = held := Option.some.inj hfound
    exact nomatch hstops
  refine ⟨place, ⟨hbegun, hleads, hshort, hfound, stops_iff.mpr hstops⟩, ?_, ?_⟩
  · rw [List.getLast?_eq_some_getLast hbegun] at hlast ⊢
    exact congrArg some hlast
  · exact fun other w hother =>
      hfirst other w hother.onTheWay hother.found (stops_iff.mp hother.stops)

/-- An assignment to an object that fails names what blocks its way first. -/
theorem firstBlockedAt_of_error (hpath : Text.isBlankText path = false) {v : Value} {e : AssignError}
    (h : ((object ms).assignInPlace path v).2 = .error e) :
    ∃ place key held, e = .blocked path key held ∧
      (object ms).FirstBlockedAt (Path.segments path) place key held := by
  rw [assignInPlace_object hpath ms v ""] at h
  cases hobstacle : Slot.obstacle? "" (some (.object ms)) (Path.segments path) with
  | none => rw [hobstacle] at h; exact nomatch h
  | some blocking =>
    rw [hobstacle] at h
    obtain ⟨place, hplace⟩ := firstBlockedAt_of_obstacle? hobstacle
    exact ⟨place, blocking.1, blocking.2, (Except.error.inj h).symm, hplace⟩

/-- An assignment to an object fails when something blocks its way. -/
theorem BlockedAt.exists_error (hpath : Text.isBlankText path = false)
    (h : (object ms).BlockedAt (Path.segments path) place held) (v : Value) :
    ∃ e, ((object ms).assignInPlace path v).2 = .error e := by
  have hobstacle : ∃ blocking,
      Slot.obstacle? "" (some (.object ms)) (Path.segments path) = some blocking :=
    Slot.exists_obstacle? h.onTheWay h.short h.found (stops_iff.mp h.stops)
  obtain ⟨blocking, hobstacle⟩ := hobstacle
  rw [assignInPlace_object hpath ms v "", hobstacle]
  exact ⟨_, rfl⟩

end Object

/-! ## The whole -/

/-- What fails leaves the tree as it was. -/
theorem assignInPlace_fst_of_error {tree v : Value} {path : String} {e : AssignError}
    (h : (tree.assignInPlace path v).2 = .error e) : (tree.assignInPlace path v).1 = tree := by
  rw [assignInPlace_eq] at h ⊢
  cases hassign : tree.assign path v with
  | ok changed => rw [hassign] at h; exact nomatch h
  | error e => rfl

theorem assignInPlace_of_root {tree : Value} {path : String} (hpath : Text.isBlankText path = false)
    (hroot : tree.members? = none) (v : Value) :
    ∃ e, (tree.assignInPlace path v).2 = .error e := by
  unfold assignInPlace
  rw [if_neg (by simp [hpath])]
  cases tree with
  | object ms => exact nomatch hroot
  | _ => dsimp only; split_ifs <;> exact ⟨_, rfl⟩

/-- **Assignments are atomic, and fail exactly when they must.** Whenever an assignment in place
fails it leaves the tree as it was, so that what comes of it is what `assign` gives. With a blank
path it never fails and changes nothing. With any other path it always fails at a root that is no
object, and from an object exactly when a value that is there on the way, before its end, is neither
null nor an object: then it names the key that leads to the first such value. -/
theorem assignInPlace_fails_iff_blocked (tree : Value) (path : String) (v : Value) :
    (∀ e, (tree.assignInPlace path v).2 = .error e → (tree.assignInPlace path v).1 = tree) ∧
      tree.assign path v =
        (tree.assignInPlace path v).2.map (fun _ => (tree.assignInPlace path v).1) ∧
      (Text.isBlankText path = true → tree.assignInPlace path v = (tree, .ok ())) ∧
      (Text.isBlankText path = false →
        (tree.members? = none → ∃ e, (tree.assignInPlace path v).2 = .error e) ∧
        ∀ ms, tree = .object ms →
          ((∃ key held, (tree.assignInPlace path v).2 = .error (.blocked path key held)) ↔
            ∃ place held, tree.BlockedAt (Path.segments path) place held) ∧
          ∀ e, (tree.assignInPlace path v).2 = .error e →
            ∃ place key held, e = .blocked path key held ∧
              tree.FirstBlockedAt (Path.segments path) place key held ∧
              tree.follow place = held) := by
  refine ⟨fun e => assignInPlace_fst_of_error, ?_, ?_, ?_⟩
  · rw [assignInPlace_eq]
    cases tree.assign path v <;> rfl
  · intro hpath
    simp [assignInPlace, hpath]
  · intro hpath
    refine ⟨fun hroot => assignInPlace_of_root hpath hroot v, ?_⟩
    rintro ms rfl
    refine ⟨⟨?_, ?_⟩, ?_⟩
    · rintro ⟨key, held, h⟩
      obtain ⟨place, key, held, -, hfirst⟩ := firstBlockedAt_of_error hpath h
      exact ⟨place, held, hfirst.blocked⟩
    · rintro ⟨place, held, hblocked⟩
      obtain ⟨e, he⟩ := hblocked.exists_error hpath v
      obtain ⟨_, key, held, rfl, -⟩ := firstBlockedAt_of_error hpath he
      exact ⟨key, held, he⟩
    · intro e he
      obtain ⟨place, key, held, rfl, hfirst⟩ := firstBlockedAt_of_error hpath he
      exact ⟨place, key, held, rfl, hfirst, hfirst.blocked.follow⟩

/-- A customer without an address, and with a list of tags. -/
def taggedCustomer : Value :=
  .object [("customer", .object [("address", .null), ("tags", .list [.text "a", .text "b"])])]

/-- An assignment that goes through the list of tags fails at it, and names it; the null that it
would have replaced on another way is still there. -/
theorem assignInPlace_fails_tagged :
    Text.isBlankText "customer.tags.first.name" = false ∧
      (taggedCustomer.assignInPlace "customer.tags.first.name" (.text "c")).1 = taggedCustomer ∧
      ∃ e place held, (taggedCustomer.assignInPlace "customer.tags.first.name" (.text "c")).2 =
          .error e ∧ e = .blocked "customer.tags.first.name" "tags" held ∧
        taggedCustomer.FirstBlockedAt ["customer", "tags", "first", "name"] place "tags" held := by
  have hpath : Text.isBlankText "customer.tags.first.name" = false := by decide
  have hsegments : Path.segments "customer.tags.first.name" =
      ["customer", "tags", "first", "name"] := by decide
  have he : (taggedCustomer.assignInPlace "customer.tags.first.name" (.text "c")).2 =
      .error (.blocked "customer.tags.first.name" "tags" (.list [.text "a", .text "b"])) := by
    decide
  obtain ⟨hatomic, -, -, hrest⟩ :=
    assignInPlace_fails_iff_blocked taggedCustomer "customer.tags.first.name" (.text "c")
  obtain ⟨place, key, held, hblocked, hfirst, -⟩ := ((hrest hpath).2 _ rfl).2 _ he
  obtain ⟨-, rfl, rfl⟩ := AssignError.blocked.inj hblocked
  rw [hsegments] at hfirst
  exact ⟨hpath, hatomic _ he, _, place, _, he, rfl, hfirst⟩

end Value

end Rulebook
