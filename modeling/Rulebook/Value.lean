import Rulebook.Number.Order

/-!
# Value trees

The data that rules read and write: JSON-like trees in which integers have any size and doubles are
distinct from integers. `absent` marks a value that is not there, which is what a path that leads
nowhere resolves to.

The members of an object are kept as a list of pairs. Only what `get?` and `insert` show of it
counts: `insert` replaces the value of a key in its place or adds the key at the end, so no key that
was put in by `insert` occurs twice, and `get?_insert` says what is read back.

Two equalities are needed. `Value.beq` (the instance) tells all kinds apart. `Value.sameAs` is the
coarser one by which the store recognises that an update changes nothing: there `1`, `1.0` and
`true` are the same value, at any depth, and the order of members does not count.
-/

set_option autoImplicit false

namespace Rulebook

/-- A JSON-like tree. -/
inductive Value
  | absent
  | null
  | bool (b : Bool)
  | int (n : Int)
  | double (d : Double)
  | text (s : String)
  | list (items : List Value)
  | object (members : List (String × Value))

/-- The members of an object: keys with their values. -/
abbrev Members := List (String × Value)

namespace Members

/-- The value of a key. -/
def get? (ms : Members) (key : String) : Option Value :=
  (ms.find? (·.1 == key)).map (·.2)

/-- The members with a key set to a value: in its place if it is there, at the end otherwise. -/
def insert (ms : Members) (key : String) (v : Value) : Members :=
  match ms with
  | [] => [(key, v)]
  | (k, w) :: rest => if k = key then (k, v) :: rest else (k, w) :: insert rest key v

/-- Whether a key is there. -/
def contains (ms : Members) (key : String) : Bool :=
  ms.any (·.1 == key)

/-- Members from a sequence of pairs; of a repeated key the last value counts. -/
def ofPairs (pairs : List (String × Value)) : Members :=
  pairs.foldl (fun ms p => ms.insert p.1 p.2) []

/-- What is read back after a key was set. -/
theorem get?_insert (ms : Members) (key other : String) (v : Value) :
    (ms.insert key v).get? other = if key = other then some v else ms.get? other := by
  induction ms with
  | nil =>
    by_cases h : key = other
    · simp [insert, get?, h]
    · simp [insert, get?, h]
  | cons m rest ih =>
    obtain ⟨k, w⟩ := m
    unfold get? at ih
    by_cases hk : k = key
    · by_cases ho : k = other
      · simp [insert, get?, hk, ← ho]
      · have : ¬ key = other := fun e => ho (hk.trans e)
        simp [insert, get?, hk, this]
    · by_cases ho : k = other
      · subst ho
        have : ¬ key = k := fun e => hk e.symm
        simp [insert, get?, hk, this]
      · simp [insert, get?, hk, ho, ih]

end Members

namespace Value

instance : Inhabited Value := ⟨.null⟩

mutual

/-- Equality of value trees that tells every kind apart. -/
def beq : Value → Value → Bool
  | .absent, .absent => true
  | .null, .null => true
  | .bool a, .bool b => a == b
  | .int a, .int b => a == b
  | .double a, .double b => a == b
  | .text a, .text b => a == b
  | .list as, .list bs => beqItems as bs
  | .object as, .object bs => beqMembers as bs
  | _, _ => false
termination_by structural x => x

/-- `beq` on the items of two lists. -/
def beqItems : List Value → List Value → Bool
  | [], [] => true
  | a :: as, b :: bs => beq a b && beqItems as bs
  | _, _ => false
termination_by structural x => x

/-- `beq` on the members of two objects, in order. -/
def beqMembers : List (String × Value) → List (String × Value) → Bool
  | [], [] => true
  | (k, a) :: as, (l, b) :: bs => k == l && beq a b && beqMembers as bs
  | _, _ => false
termination_by structural x => x

end

instance : BEq Value := ⟨beq⟩

mutual

theorem beq_refl : ∀ v : Value, beq v v = true
  | .absent | .null => rfl
  | .bool _ | .int _ | .double _ | .text _ => by simp [beq]
  | .list items => by simpa [beq] using beqItems_refl items
  | .object ms => by simpa [beq] using beqMembers_refl ms

theorem beqItems_refl : ∀ vs : List Value, beqItems vs vs = true
  | [] => rfl
  | v :: vs => by simp [beqItems, beq_refl v, beqItems_refl vs]

theorem beqMembers_refl : ∀ ms : List (String × Value), beqMembers ms ms = true
  | [] => rfl
  | (k, v) :: ms => by simp [beqMembers, beq_refl v, beqMembers_refl ms]

end

mutual

theorem eq_of_beq : ∀ {v w : Value}, beq v w = true → v = w
  | .absent, w, h => by cases w <;> simp_all [beq]
  | .null, w, h => by cases w <;> simp_all [beq]
  | .bool _, w, h => by cases w <;> simp_all [beq]
  | .int _, w, h => by cases w <;> simp_all [beq]
  | .double _, w, h => by cases w <;> simp_all [beq]
  | .text _, w, h => by cases w <;> simp_all [beq]
  | .list as, w, h => by
    cases w with
    | list bs => exact congrArg Value.list (eq_of_beqItems (by simpa [beq] using h))
    | _ => simp [beq] at h
  | .object as, w, h => by
    cases w with
    | object bs => exact congrArg Value.object (eq_of_beqMembers (by simpa [beq] using h))
    | _ => simp [beq] at h

theorem eq_of_beqItems : ∀ {vs ws : List Value}, beqItems vs ws = true → vs = ws
  | [], ws, h => by cases ws <;> simp_all [beqItems]
  | v :: vs, ws, h => by
    cases ws with
    | nil => simp [beqItems] at h
    | cons w ws =>
      simp only [beqItems, Bool.and_eq_true] at h
      rw [eq_of_beq h.1, eq_of_beqItems h.2]

theorem eq_of_beqMembers : ∀ {ms ns : List (String × Value)}, beqMembers ms ns = true → ms = ns
  | [], ns, h => by cases ns <;> simp_all [beqMembers]
  | (k, v) :: ms, ns, h => by
    cases ns with
    | nil => simp [beqMembers] at h
    | cons n ns =>
      obtain ⟨l, w⟩ := n
      simp only [beqMembers, Bool.and_eq_true, beq_iff_eq] at h
      rw [h.1.1, eq_of_beq h.1.2, eq_of_beqMembers h.2]

end

instance : LawfulBEq Value where
  eq_of_beq := eq_of_beq
  rfl := beq_refl _

instance : DecidableEq Value := fun v w =>
  decidable_of_iff (beq v w = true) ⟨eq_of_beq, fun h => h ▸ beq_refl v⟩

/-- A number as a value. -/
def ofNumber : Number → Value
  | .int n => .int n
  | .double d => .double d

/-- The number that a number or a truth value counts as in comparisons of values. -/
def asNumber? : Value → Option Number
  | .bool b => some (.int (if b then 1 else 0))
  | .int n => some (.int n)
  | .double d => some (.double d)
  | _ => none

/-- Whether a value is a list or an object. -/
def isCompound : Value → Bool
  | .list _ => true
  | .object _ => true
  | _ => false

/-- The members of an object. -/
def members? : Value → Option Members
  | .object ms => some ms
  | _ => none

/-- Whether a value counts as the given number. -/
def sameNumber (n : Number) (w : Value) : Bool :=
  match w.asNumber? with
  | some m => n.eq m
  | none => false

mutual

/-- Equality up to the kind of numbers: `1`, `1.0` and `true` are the same, at any depth, and the
order of members does not count. A double that is no number is the same as another only inside a
list or an object, and only if `oneNaN` holds, that is, if both were read from the same kind of
text, where it is one shared value. -/
def sameAs (oneNaN : Bool) : Value → Value → Bool
  | .absent, .absent => true
  | .null, .null => true
  | .text a, .text b => a == b
  | .list as, .list bs => sameItems oneNaN as bs
  | .object as, .object bs => as.length == bs.length && sameMembers oneNaN as bs
  | .bool a, w => sameNumber (.int (if a then 1 else 0)) w
  | .int a, w => sameNumber (.int a) w
  | .double .nan, .double .nan => oneNaN
  | .double a, w => sameNumber (.double a) w
  | _, _ => false
termination_by structural x => x

/-- `sameAs` on the items of two lists. -/
def sameItems (oneNaN : Bool) : List Value → List Value → Bool
  | [], [] => true
  | a :: as, b :: bs => sameAs oneNaN a b && sameItems oneNaN as bs
  | _, _ => false
termination_by structural x => x

/-- Whether the other object holds the same value under every key of the first. -/
def sameMembers (oneNaN : Bool) : List (String × Value) → List (String × Value) → Bool
  | [], _ => true
  | (k, a) :: as, bs =>
    (match Members.get? bs k with
      | some b => sameAs oneNaN a b
      | none => false) && sameMembers oneNaN as bs
termination_by structural x => x

end

/-- The word for the kind of a value in messages about paths. -/
def kindName : Value → String
  | .absent => "_Undefined"
  | .null => "NoneType"
  | .bool _ => "bool"
  | .int _ => "int"
  | .double _ => "float"
  | .text _ => "str"
  | .list _ => "list"
  | .object _ => "dict"

end Value

end Rulebook
