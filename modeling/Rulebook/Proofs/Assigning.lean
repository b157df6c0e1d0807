import Rulebook.Path
import Rulebook.Proofs.Result

/-!
# What an assignment does

An assignment follows its keys from the root. On the way it makes an object of a place that is empty
or holds null, and it stops at the first value that is neither an object nor null. `Slot.set` is the
value that it leaves at a place, `Slot.obstacle?` is where it stops, and `Value.assign_object` says
that these two are all there is to know of it.

The rest of the file is how two assignments get along. If one goes to a place on the other's way,
it wipes out what the other did before, or keeps it from doing anything afterwards. If neither is on
the other's way they do not see each other. What carries over from one assignment to all later ones
is `Slot.Barred`: once a value that stops assignments lies on the way or at its end, one always
will.
-/

set_option autoImplicit false

namespace Rulebook

namespace Members

variable {ms : Members} {key other : String} {v w : Value}

/-- Of two values for a key the later one counts. -/
theorem insert_insert (ms : Members) (key : String) (v w : Value) :
    (ms.insert key v).insert key w = ms.insert key w := by
  induction ms with
  | nil => simp [insert]
  | cons m rest ih =>
    obtain ⟨k, u⟩ := m
    by_cases hk : k = key
    · simp [insert, hk]
    · simp [insert, hk, ih]

/-- Setting a key to the value that it has changes nothing. -/
theorem insert_of_get? (h : ms.get? key = some v) : ms.insert key v = ms := by
  induction ms with
  | nil => simp [get?] at h
  | cons m rest ih =>
    obtain ⟨k, u⟩ := m
    by_cases hk : k = key
    · obtain rfl : u = v := by simpa [get?, hk] using h
      simp [insert, hk]
    · have hrest : get? rest key = some v := by simpa [get?, hk] using h
      simp [insert, hk, ih hrest]

/-- Setting a key that is there and setting another one can be swapped. A key that is not there is
added at the end, so with two new keys the order would show. -/
theorem insert_comm (hkey : ms.get? key ≠ none) (hne : other ≠ key) :
    (ms.insert other w).insert key v = (ms.insert key v).insert other w := by
  induction ms with
  | nil => exact absurd rfl hkey
  | cons m rest ih =>
    obtain ⟨k, u⟩ := m
    by_cases hk : k = key
    · have hother : ¬ key = other := fun e => hne e.symm
      simp [insert, hk, hother]
    · have hrest : get? rest key ≠ none := by simpa [get?, hk] using hkey
      by_cases hother : k = other
      · simp [insert, hother, hne]
      · simp [insert, hk, hother, ih hrest]

theorem get?_insert_self (ms : Members) (key : String) (v : Value) :
    (ms.insert key v).get? key = some v := by
  simp [get?_insert]

theorem get?_insert_of_ne (hne : key ≠ other) : (ms.insert key v).get? other = ms.get? other := by
  simp [get?_insert, hne]

end Members

/-- A place in a tree: the value that is there, if there is one. -/
abbrev Slot := Option Value

namespace Slot

/-- The members of a place that an assignment goes on from; none if it stops there. -/
def members? : Slot → Option Members
  | none => some []
  | some .null => some []
  | some (.object ms) => some ms
  | some _ => none

/-- The value at a place after an assignment to the keys below it. -/
def set (v : Value) : Slot → List String → Value
  | _, [] => v
  | slot, key :: rest =>
    match members? slot with
    | some ms => .object (ms.insert key (set v (ms.get? key) rest))
    | none => slot.getD .null

/-- The key and the value at which an assignment stops; `name` is the key of the place itself. -/
def obstacle? (name : String) : Slot → List String → Option (String × Value)
  | _, [] => none
  | slot, key :: rest =>
    match members? slot with
    | some ms => obstacle? key (ms.get? key) rest
    | none => slot.map fun held => (name, held)

/-- A value that stops assignments lies on the way of some keys or at its end. -/
def Barred : Slot → List String → Prop
  | slot, [] => members? slot = none
  | slot, key :: rest =>
    match members? slot with
    | some ms => Barred (ms.get? key) rest
    | none => True

section Equations

variable {slot : Slot} {ms : Members} {key name : String} {rest : List String} {v : Value}

@[simp] theorem members?_object (ms : Members) : members? (some (.object ms)) = some ms := rfl

theorem some_getD_of_members? (h : members? slot = none) : some (slot.getD .null) = slot := by
  cases slot with
  | none => simp [members?] at h
  | some held => rfl

theorem set_cons_some (h : members? slot = some ms) :
    set v slot (key :: rest) = .object (ms.insert key (set v (ms.get? key) rest)) := by
  rw [set, h]

/-- Where an assignment stops the value stays as it was. -/
theorem set_cons_none (h : members? slot = none) : some (set v slot (key :: rest)) = slot := by
  rw [set, h]
  exact some_getD_of_members? h

theorem obstacle?_cons_some (h : members? slot = some ms) :
    obstacle? name slot (key :: rest) = obstacle? key (ms.get? key) rest := by
  rw [obstacle?, h]

/-- With nothing in the way an assignment goes on from its place. -/
theorem exists_members?_of_clear (h : obstacle? name slot (key :: rest) = none) :
    ∃ ms, members? slot = some ms := by
  cases hms : members? slot with
  | some ms => exact ⟨ms, rfl⟩
  | none =>
    rw [obstacle?, hms] at h
    cases slot with
    | none => exact nomatch hms
    | some held => exact nomatch h

/-- An assignment that meets an obstacle leaves everything as it was. -/
theorem set_of_obstacle? {blocking : String × Value} {keys : List String}
    (h : obstacle? name slot keys = some blocking) : some (set v slot keys) = slot := by
  induction keys generalizing slot name with
  | nil => exact nomatch h
  | cons key rest ih =>
    cases hms : members? slot with
    | none => exact set_cons_none hms
    | some ms =>
      rw [obstacle?_cons_some hms] at h
      -- Something is under the key, so the place is an object that has it.
      have hkept := ih h
      cases slot with
      | none => cases hms; exact nomatch hkept
      | some held =>
        cases held with
        | object inner =>
          obtain rfl : inner = ms := Option.some.inj hms
          rw [set_cons_some hms, Members.insert_of_get? hkept.symm]
        | null => cases hms; exact nomatch hkept
        | _ => exact nomatch hms

/-- Where nothing is in the way, the assigned value is found at the end of the keys. -/
theorem follow_set {keys : List String} (h : obstacle? name slot keys = none) :
    (set v slot keys).follow keys = v := by
  induction keys generalizing slot name with
  | nil => rfl
  | cons key rest ih =>
    obtain ⟨ms, hms⟩ := exists_members?_of_clear h
    rw [obstacle?_cons_some hms] at h
    rw [set_cons_some hms, Value.follow, Value.child, Members.get?_insert_self, Option.getD_some]
    exact ih h

theorem barred_cons_some (h : members? slot = some ms) :
    Barred slot (key :: rest) ↔ Barred (ms.get? key) rest := by
  rw [Barred, h]

theorem barred_of_members?_eq_none (h : members? slot = none) (keys : List String) :
    Barred slot keys := by
  cases keys with
  | nil => exact h
  | cons key rest => simp [Barred, h]

/-- Nothing is in the way where nothing is. -/
theorem not_barred_none (keys : List String) : ¬ Barred none keys := by
  induction keys with
  | nil => simp [Barred, members?]
  | cons key rest ih => simpa [Barred, members?, Members.get?] using ih

end Equations

/-! ## Two assignments -/

section Two

variable {slot : Slot} {v w : Value} {p q : List String}

/-- An assignment to a place on the way of an earlier one, or to the same place, wipes it out. -/
theorem set_set_above (h : q <+: p) : set v (some (set w slot p)) q = set v slot q := by
  induction q generalizing slot p with
  | nil => rfl
  | cons key rest ih =>
    obtain ⟨p, rfl, hrest⟩ := List.cons_prefix_iff.mp h
    cases hms : members? slot with
    | none => rw [set_cons_none hms]
    | some ms =>
      rw [set_cons_some hms, set_cons_some hms, set_cons_some (members?_object _),
        Members.get?_insert_self, Members.insert_insert, ih hrest]

/-- An assignment whose way leads through a place with a value that stops it does nothing. -/
theorem set_set_below (hv : members? (some v) = none) (h : p <+: q) (hne : p ≠ q) :
    set w (some (set v slot p)) q = set v slot p := by
  induction p generalizing slot q with
  | nil =>
    cases q with
    | nil => exact absurd rfl hne
    | cons key rest => exact Option.some.inj (set_cons_none hv)
  | cons key rest ih =>
    obtain ⟨q, rfl, hrest⟩ := List.cons_prefix_iff.mp h
    have hne : rest ≠ q := fun e => hne (congrArg (key :: ·) e)
    cases hms : members? slot with
    | none => exact Option.some.inj (by rw [set_cons_none hms, set_cons_none hms])
    | some ms =>
      rw [set_cons_some hms, set_cons_some (members?_object _), Members.get?_insert_self,
        Members.insert_insert, ih hrest hne]

/-- Neither of two ways leads through the end of the other. -/
def Apart (p q : List String) : Prop :=
  ¬ p <+: q ∧ ¬ q <+: p

instance (p q : List String) : Decidable (Apart p q) :=
  inferInstanceAs (Decidable (¬ p <+: q ∧ ¬ q <+: p))

theorem Apart.symm (h : Apart p q) : Apart q p := ⟨h.2, h.1⟩

/-- Ways that are apart part at some key. -/
theorem Apart.cases_cons {k : String} (h : Apart (k :: p) q) :
    ∃ l r, q = l :: r ∧ (k = l → Apart p r) := by
  cases q with
  | nil => exact absurd List.nil_prefix h.2
  | cons l r =>
    refine ⟨l, r, rfl, ?_⟩
    rintro rfl
    exact ⟨fun hpr => h.1 (List.cons_prefix_cons.mpr ⟨rfl, hpr⟩),
      fun hrp => h.2 (List.cons_prefix_cons.mpr ⟨rfl, hrp⟩)⟩

theorem not_apart_nil (h : Apart [] q) : False :=
  h.1 List.nil_prefix

/-- An assignment does not move the obstacle that another one meets apart from it. -/
theorem obstacle?_set (h : Apart p q) (name : String) :
    obstacle? name (some (set v slot p)) q = obstacle? name slot q := by
  induction p generalizing slot q name with
  | nil => exact (not_apart_nil h).elim
  | cons k p ih =>
    obtain ⟨l, q, rfl, hrest⟩ := h.cases_cons
    cases hms : members? slot with
    | none => rw [set_cons_none hms]
    | some ms =>
      rw [set_cons_some hms, obstacle?_cons_some (members?_object _), obstacle?_cons_some hms]
      by_cases hkl : k = l
      · subst hkl
        rw [Members.get?_insert_self, ih (hrest rfl)]
      · rw [Members.get?_insert_of_ne hkl]

/-! ## What stays barred -/

/-- After an assignment of a value that stops others its place is barred, whether it went through or
not. -/
theorem barred_set_self (hv : members? (some v) = none) : Barred (some (set v slot p)) p := by
  induction p generalizing slot with
  | nil => exact hv
  | cons key rest ih =>
    cases hms : members? slot with
    | none =>
      rw [set_cons_none hms]
      exact barred_of_members?_eq_none hms _
    | some ms =>
      rw [set_cons_some hms, barred_cons_some (members?_object _), Members.get?_insert_self]
      exact ih

/-- **Barred once, barred for ever.** An assignment of a value that stops others, wherever it goes,
does not open what is barred. -/
theorem Barred.set (hv : members? (some v) = none) (h : Barred slot q) :
    Barred (some (set v slot p)) q := by
  induction p generalizing slot q with
  | nil => exact barred_of_members?_eq_none hv q
  | cons k p ih =>
    cases hms : members? slot with
    | none => rwa [set_cons_none hms]
    | some ms =>
      cases q with
      | nil => exact absurd (hms.symm.trans h) nofun
      | cons l q =>
        rw [barred_cons_some hms] at h
        rw [set_cons_some hms, barred_cons_some (members?_object _)]
        by_cases hkl : k = l
        · subst hkl
          rw [Members.get?_insert_self]
          exact ih h
        · rwa [Members.get?_insert_of_ne hkl]

/-- Assignments apart from each other can be swapped, if the place of one is barred: then that one
adds no key, and the order of the keys is the same either way. -/
theorem set_comm_of_barred (h : Apart p q) (hbarred : Barred slot q) :
    set v (some (set w slot p)) q = set w (some (set v slot q)) p := by
  induction p generalizing slot q with
  | nil => exact (not_apart_nil h).elim
  | cons k p ih =>
    obtain ⟨l, q, rfl, hrest⟩ := h.cases_cons
    cases hms : members? slot with
    | none => exact Option.some.inj (by simp only [set_cons_none hms])
    | some ms =>
      rw [barred_cons_some hms] at hbarred
      rw [set_cons_some hms, set_cons_some hms, set_cons_some (members?_object _),
        set_cons_some (members?_object _)]
      by_cases hkl : k = l
      · subst hkl
        rw [Members.get?_insert_self, Members.get?_insert_self, Members.insert_insert,
          Members.insert_insert, ih (hrest rfl) hbarred]
      · have hl : ms.get? l ≠ none := fun hnone => not_barred_none q (hnone ▸ hbarred)
        rw [Members.get?_insert_of_ne hkl, Members.get?_insert_of_ne (Ne.symm hkl),
          Members.insert_comm hl hkl]

end Two

end Slot

/-! ## Assigning in a tree -/

theorem Path.segments_ne_nil (path : String) : Path.segments path ≠ [] := by
  unfold segments
  rw [Ne, List.map_eq_nil_iff]
  exact List.splitOn_ne_nil '.' path.toList

namespace Value

variable {path : String} {v : Value}

/-- One key of an assignment: the members below it are opened, or they are what it stops at. -/
theorem assignMembers_cons (path : String) (ms : Members) (v : Value) (key next : String)
    (rest : List String) :
    assignMembers path ms v (key :: next :: rest) =
      match Slot.members? (ms.get? key) with
      | some inner =>
        (assignMembers path inner v (next :: rest)).map fun below => ms.insert key (.object below)
      | none => .error (.blocked path key ((ms.get? key).getD .null)) := by
  rw [assignMembers]
  cases ms.get? key with
  | none => cases assignMembers path [] v (next :: rest) <;> rfl
  | some held =>
    cases held with
    | null => cases assignMembers path [] v (next :: rest) <;> rfl
    | object inner => cases assignMembers path inner v (next :: rest) <;> rfl
    | _ => rfl
  simp

/-- What comes of an assignment to an object: the obstacle in its way, or the object that it leaves.
-/
theorem map_assignMembers (path : String) (v : Value) (keys : List String) :
    ∀ (ms : Members) (key name : String), (assignMembers path ms v (key :: keys)).map .object =
      match Slot.obstacle? name (some (.object ms)) (key :: keys) with
      | some (blocking, held) => .error (.blocked path blocking held)
      | none => .ok (Slot.set v (some (.object ms)) (key :: keys)) := by
  induction keys with
  | nil => exact fun _ _ _ => rfl
  | cons next rest ih =>
    intro ms key name
    rw [assignMembers_cons, Slot.obstacle?_cons_some (Slot.members?_object ms),
      Slot.set_cons_some (Slot.members?_object ms)]
    cases hms : Slot.members? (ms.get? key) with
    | none =>
      cases hget : ms.get? key with
      | none => simp [hget, Slot.members?] at hms
      | some held =>
        rw [hget] at hms
        simp [Slot.obstacle?, hms, Except.map]
    | some inner =>
      -- The keys below meet the same obstacle from the members below as from the whole.
      have hinner := ih inner next key
      rw [Slot.obstacle?_cons_some (Slot.members?_object inner),
        Slot.set_cons_some (Slot.members?_object inner)] at hinner
      rw [Slot.obstacle?_cons_some hms, Slot.set_cons_some hms]
      cases hobstacle : Slot.obstacle? next (inner.get? next) rest with
      | none =>
        rw [hobstacle] at hinner
        obtain ⟨below, hbelow, hobject⟩ := map_eq_ok.mp hinner
        obtain rfl := Value.object.inj hobject
        simp only [hbelow]
        rfl
      | some blocking =>
        rw [hobstacle] at hinner
        cases hassign : assignMembers path inner v (next :: rest) with
        | ok below => simp [hassign, Except.map] at hinner
        | error e => simpa [hassign, Except.map] using hinner

/-- **All there is to know of an assignment to an object.** It fails with the obstacle on its way,
or it leaves the object that `Slot.set` says. -/
theorem assign_object (hpath : Text.isBlankText path = false) (ms : Members) (name : String) :
    (Value.object ms).assign path v =
      match Slot.obstacle? name (some (.object ms)) (Path.segments path) with
      | some (blocking, held) => .error (.blocked path blocking held)
      | none => .ok (Slot.set v (some (.object ms)) (Path.segments path)) := by
  obtain ⟨key, rest, hkeys⟩ := List.exists_cons_of_ne_nil (Path.segments_ne_nil path)
  rw [hkeys, ← map_assignMembers, ← hkeys]
  unfold assign
  rw [if_neg (by simp [hpath])]
  show (assignMembers path ms v (Path.segments path) >>= fun ms => pure (object ms)) = _
  cases assignMembers path ms v (Path.segments path) <;> rfl

end Value

end Rulebook
