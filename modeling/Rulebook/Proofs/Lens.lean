import Rulebook.Proofs.InPlace

/-!
# What is read after an assignment

Once an assignment has gone through, every path reads what the place of the assignment lets it read.
At the place is the assigned value, below it is what is below that value, and on the way to it there
are objects. A path that leads neither through the place nor to something on the way reads what it
read before, also where objects were made or took the place of null.

`Slot.at?_set_of_apart` is the last of these laws for a single place. It holds whether or not the
assignment goes through, so it is also what a whole run of assignments goes by. The laws together
are `Value.Lens`.
-/

set_option autoImplicit false

namespace Rulebook

/-- A point ends one key and starts the next. -/
theorem Path.segments_append (p q : String) :
    Path.segments (p ++ "." ++ q) = Path.segments p ++ Path.segments q := by
  unfold segments
  rw [String.append_assoc, String.toList_append, String.toList_append,
    show ".".toList = ['.'] from rfl, List.singleton_append, List.splitOn_append_cons_self,
    List.map_append]

theorem Value.follow_append (v : Value) (p q : List String) :
    v.follow (p ++ q) = (v.follow p).follow q := by
  induction p generalizing v with
  | nil => rfl
  | cons key rest ih => exact ih (v.child key)

namespace Slot

variable {slot : Slot} {v w : Value} {p q keys : List String} {name : String}

/-! ## Around an assignment -/

/-- **An assignment changes nothing apart from its own way.** -/
theorem at?_set_of_apart (h : Apart p q) : (set v slot p).at? q = slot.bind (·.at? q) := by
  induction p generalizing slot q with
  | nil => exact (not_apart_nil h).elim
  | cons k p ih =>
    obtain ⟨l, q, rfl, hrest⟩ := h.cases_cons
    cases hms : members? slot with
    | none =>
      have hkept : some (set v slot (k :: p)) = slot := set_cons_none hms
      rw [← hkept, Option.bind_some, hkept]
    | some ms =>
      rw [set_cons_some hms, bind_at?_cons hms]
      show (Members.get? (ms.insert k _) l).bind (·.at? q) = _
      by_cases hkl : k = l
      · -- Both ways go on below the same key.
        subst hkl
        rw [Members.get?_insert_self, Option.bind_some, ih (hrest rfl)]
      · rw [Members.get?_insert_of_ne hkl]

/-- Where an assignment has gone through, its way leads through objects. -/
theorem exists_follow_set (h : obstacle? name slot keys = none) (hleads : p <+: keys)
    (hshort : p ≠ keys) : ∃ ms, (set v slot keys).follow p = .object ms := by
  induction keys generalizing slot name p with
  | nil => exact absurd (List.prefix_nil.mp hleads) hshort
  | cons key rest ih =>
    obtain ⟨ms, hms⟩ := exists_members?_of_clear h
    rw [obstacle?_cons_some hms] at h
    rw [set_cons_some hms]
    cases p with
    | nil => exact ⟨_, rfl⟩
    | cons k p =>
      obtain ⟨rfl, hrest⟩ := List.cons_prefix_cons.mp hleads
      rw [Value.follow, Value.child, Members.get?_insert_self, Option.getD_some]
      exact ih h hrest fun e => hshort (congrArg (k :: ·) e)

/-! ## Assigning again -/

/-- What has gone through once goes through again. -/
theorem obstacle?_set_self (h : obstacle? name slot keys = none) :
    obstacle? name (some (set v slot keys)) keys = none := by
  induction keys generalizing slot name with
  | nil => rfl
  | cons key rest ih =>
    obtain ⟨ms, hms⟩ := exists_members?_of_clear h
    rw [obstacle?_cons_some hms] at h
    rw [set_cons_some hms, obstacle?_cons_some (members?_object _), Members.get?_insert_self]
    exact ih h

/-- Nothing is in the way of what is there. -/
theorem obstacle?_of_at? {tree : Value} (h : tree.at? keys = some v) :
    obstacle? name (some tree) keys = none := by
  induction keys generalizing tree name with
  | nil => rfl
  | cons key rest ih =>
    obtain ⟨ms, below, rfl, hget, hbelow⟩ := Value.exists_of_at?_cons h
    rw [obstacle?_cons_some (members?_object ms), hget]
    exact ih hbelow

/-- Assigning what is there changes nothing. -/
theorem set_of_at? {tree : Value} (h : tree.at? keys = some v) : set v (some tree) keys = tree := by
  induction keys generalizing tree with
  | nil => exact (Option.some.inj h).symm
  | cons key rest ih =>
    obtain ⟨ms, below, rfl, hget, hbelow⟩ := Value.exists_of_at?_cons h
    rw [set_cons_some (members?_object ms), hget, ih hbelow, Members.insert_of_get? hget]

end Slot

/-! ## The laws -/

namespace Value

/-- What is read from a tree after a value was assigned at a path of it, and what assigning there
once more comes to. -/
structure Lens (before : Value) (path : String) (v after : Value) : Prop where
  here : after.resolve path = v
  below : ∀ more, after.resolve (path ++ "." ++ more) = v.resolve more
  above : ∀ other, Path.segments other <+: Path.segments path →
    Path.segments other ≠ Path.segments path → ∃ ms, after.resolve other = .object ms
  elsewhere : ∀ other, ¬ Path.segments path <+: Path.segments other →
    ¬ Path.segments other <+: Path.segments path → after.resolve other = before.resolve other
  again : ∀ w, ∃ final, after.assignInPlace path w = (final, .ok ()) ∧
    before.assignInPlace path w = (final, .ok ())

section Laws

variable {ms : Members} {path : String} {v after : Value}

/-- An assignment to an object goes through exactly when nothing is in its way. -/
theorem assignInPlace_eq_ok (hpath : Text.isBlankText path = false) (name : String) :
    (object ms).assignInPlace path v = (after, .ok ()) ↔
      Slot.obstacle? name (some (.object ms)) (Path.segments path) = none ∧
        Slot.set v (some (.object ms)) (Path.segments path) = after := by
  rw [assignInPlace_object hpath ms v name, Prod.mk.injEq, and_comm]
  cases Slot.obstacle? name (some (.object ms)) (Path.segments path) with
  | none => simp
  | some blocking => simp

/-- What is read at a path is there, unless it is nothing. -/
theorem at?_of_resolve {tree : Value} (h : tree.resolve path ≠ .absent) :
    tree.at? (Path.segments path) = some (tree.resolve path) := by
  unfold resolve at h ⊢
  rw [follow_eq] at h ⊢
  cases hthere : tree.at? (Path.segments path) with
  | none => exact absurd (by rw [hthere, Option.getD_none]) h
  | some w => rfl

/-- The object that is left when an assignment has gone through. -/
theorem exists_object_of_set (ms : Members) (path : String) (v : Value) :
    ∃ ns, Slot.set v (some (.object ms)) (Path.segments path) = .object ns := by
  obtain ⟨key, rest, hkeys⟩ := List.exists_cons_of_ne_nil (Path.segments_ne_nil path)
  rw [hkeys, Slot.set_cons_some (Slot.members?_object ms)]
  exact ⟨_, rfl⟩

/-- **Reading and assigning obey the laws of a lens.** After an assignment to an object that has
gone through, the value is read at its path and what is below the value is read below it, every shorter
path on the way reads an object, and every path apart reads what it read before. Assigning there
again goes through, and leaves what it would have left at first. And assigning what is read at a
path, when that is anything, changes nothing. -/
theorem lens_laws (ms : Members) {path : String} (hpath : Text.isBlankText path = false) :
    (∀ v after, (object ms).assignInPlace path v = (after, .ok ()) →
        Lens (object ms) path v after) ∧
      ((object ms).resolve path ≠ .absent →
        (object ms).assignInPlace path ((object ms).resolve path) = (object ms, .ok ())) := by
  constructor
  · intro v after h
    obtain ⟨hclear, rfl⟩ := (assignInPlace_eq_ok hpath "").mp h
    have hhere : (Slot.set v (some (.object ms)) (Path.segments path)).resolve path = v :=
      Slot.follow_set hclear
    refine ⟨hhere, ?_, ?_, ?_, ?_⟩
    · intro more
      unfold resolve at hhere ⊢
      rw [Path.segments_append, follow_append, hhere]
    · intro other hleads hshort
      exact Slot.exists_follow_set hclear hleads hshort
    · intro other hpast hbefore
      unfold resolve
      rw [follow_eq, follow_eq, Slot.at?_set_of_apart ⟨hpast, hbefore⟩, Option.bind_some]
    · intro w
      obtain ⟨ns, hns⟩ := exists_object_of_set ms path v
      have hagain := Slot.obstacle?_set_self (v := v) hclear
      have hwiped : Slot.set w (some (Slot.set v (some (.object ms)) (Path.segments path)))
          (Path.segments path) = Slot.set w (some (.object ms)) (Path.segments path) :=
        Slot.set_set_above List.prefix_rfl
      rw [hns] at hagain hwiped ⊢
      exact ⟨_, (assignInPlace_eq_ok hpath "").mpr ⟨hagain, hwiped⟩,
        (assignInPlace_eq_ok hpath "").mpr ⟨hclear, rfl⟩⟩
  · intro hthere
    have hat := at?_of_resolve hthere
    exact (assignInPlace_eq_ok hpath "").mpr ⟨Slot.obstacle?_of_at? hat, Slot.set_of_at? hat⟩

/-- An order that is still null, next to a list of tags. -/
def openOrder : Members :=
  [("order", .null), ("tags", .list [.text "a"])]

/-- A line of an order. -/
def orderLine : Value :=
  .object [("total", .int 5)]

/-- An object is assigned below the null, past an empty key. It is read there, its total is read
below it, the way to it leads through objects, and the tags are as they were; a second value takes
its place, and the tags may be assigned what they are. -/
theorem lens_laws_openOrder :
    Text.isBlankText "order..line" = false ∧ Text.isBlankText "tags" = false ∧
      ∃ after, (object openOrder).assignInPlace "order..line" orderLine = (after, .ok ()) ∧
        after.resolve "order..line" = orderLine ∧
        after.resolve ("order..line" ++ "." ++ "total") = .int 5 ∧
        (∃ ms, after.resolve "order." = .object ms) ∧
        after.resolve "tags" = (object openOrder).resolve "tags" ∧
        (∃ final, after.assignInPlace "order..line" .null = (final, .ok ()) ∧
          (object openOrder).assignInPlace "order..line" .null = (final, .ok ())) ∧
        (object openOrder).resolve "tags" ≠ .absent ∧
        (object openOrder).assignInPlace "tags" ((object openOrder).resolve "tags") =
          (object openOrder, .ok ()) := by
  have hpath : Text.isBlankText "order..line" = false := by decide
  have htags : Text.isBlankText "tags" = false := by decide
  have hthere : (object openOrder).resolve "tags" ≠ .absent := by decide
  have htotal : orderLine.resolve "total" = .int 5 := by decide
  have h : (object openOrder).assignInPlace "order..line" orderLine =
      (.object [("order", .object [("", .object [("line", orderLine)])]),
        ("tags", .list [.text "a"])], .ok ()) := by
    rfl
  have hlens := (lens_laws openOrder hpath).1 orderLine _ h
  refine ⟨hpath, htags, _, h, hlens.here, (hlens.below "total").trans htotal, ?_, ?_,
    hlens.again .null, hthere, (lens_laws openOrder htags).2 hthere⟩
  · exact hlens.above "order." (by decide) (by decide)
  · exact hlens.elsewhere "tags" (by decide) (by decide)

end Laws

end Value

end Rulebook
