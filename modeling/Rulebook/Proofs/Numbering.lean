import Rulebook.Proofs.SavedGraphs

/-!
# New ids are new

The database makes ids from a number that only grows, and different numbers give different ids. So
all rules that requests have stored have ids of lower numbers (`Service.after_numbered`), and the
next id is free. A rule that fits its columns is therefore never refused for its id.
-/

set_option autoImplicit false

namespace Rulebook

namespace Database

/-! ## Ids and numbers -/

/-- The number with given digits in base sixteen. -/
def numberOf (cs : List Char) : Nat :=
  cs.foldl (fun n c => n * 16 + (Text.radixDigit? 16 c).getD 0) 0

theorem numberOf_concat (cs : List Char) (c : Char) :
    numberOf (cs ++ [c]) = numberOf cs * 16 + (Text.radixDigit? 16 c).getD 0 := by
  rw [numberOf, List.foldl_append, List.foldl_cons, List.foldl_nil, numberOf]

theorem numberOf_toDigits (n : Nat) : numberOf (Nat.toDigits 16 n) = n := by
  have hdigit : ∀ d < 16, (Text.radixDigit? 16 (Nat.digitChar d)).getD 0 = d := by decide
  induction n using Nat.strongRecOn with
  | ind n ih =>
    by_cases hsmall : n < 16
    · rw [Nat.toDigits_of_lt_base hsmall, ← List.nil_append [n.digitChar], numberOf_concat,
        hdigit n hsmall]
      exact Nat.zero_add n
    · rw [Nat.toDigits_of_base_le (by decide) (Nat.le_of_not_lt hsmall), numberOf_concat,
        ih (n / 16) (by omega), hdigit (n % 16) (Nat.mod_lt n (by decide))]
      omega

/-- Zeros in front make no difference. -/
theorem numberOf_idOf (n : Nat) : numberOf (idOf n).toList = n := by
  have hzeros : ∀ k, (List.replicate k '0').foldl
      (fun n c => n * 16 + (Text.radixDigit? 16 c).getD 0) 0 = 0 := by
    intro k
    induction k with
    | zero => rfl
    | succ k ih => rw [List.replicate_succ, List.foldl_cons]; exact ih
  rw [idOf, String.toList_ofList, numberOf, List.foldl_append, hzeros]
  exact numberOf_toDigits n

theorem idOf_injective : Function.Injective idOf := by
  intro m n h
  rw [← numberOf_idOf m, h, numberOf_idOf]

/-- Every stored rule has the id of a number that has been used. -/
def Numbered (db : Database) : Prop :=
  ∀ r ∈ db.store.rules, ∃ n < db.nextId, r.id = idOf n

theorem Numbered.get?_idOf {db : Database} (h : db.Numbered) :
    db.store.get? (idOf db.nextId) = none := by
  unfold Store.get?
  rw [List.find?_eq_none]
  intro r hr hsame
  obtain ⟨n, hn, hid⟩ := h r hr
  have hnext : idOf n = idOf db.nextId := by simpa [hid] using hsame
  exact absurd (idOf_injective hnext) (Nat.ne_of_lt hn)

end Database

/-! ## What requests do to the numbers -/

namespace Service

open Database

theorem nextId_save (db : Database) (now : Timestamp) (q : SaveRequest) :
    (save db now q).1 = db ∨ (save db now q).1.nextId = db.nextId + 1 := by
  unfold save
  cases graphOf q.drawing with
  | error e => exact .inl rfl
  | ok g =>
    cases hvalid : g.isValid with
    | false => exact .inl (by simp [hvalid])
    | true =>
      simp only [hvalid, if_true]
      unfold Database.add
      cases db.store.add now _ q.draft with
      | error e => exact .inr rfl
      | ok p => exact .inr rfl

theorem nextId_update (db : Database) (now : Timestamp) (id : String) (u : UpdateRequest) :
    (update db now id u).1.nextId = db.nextId := by
  unfold update
  split <;> rfl

theorem nextId_delete (db : Database) (id : String) :
    (delete db id).1.nextId = db.nextId := by
  unfold delete
  split <;> rfl

end Service

namespace Database.Numbered

open Service

variable {db : Database}

theorem save (h : db.Numbered) (now : Timestamp) (q : SaveRequest) :
    (Service.save db now q).1.Numbered := by
  rcases nextId_save db now q with hsame | hnext
  · rw [hsame]
    exact h
  · -- The number is used up, whether a rule has been stored or refused.
    have hkept : ∀ r ∈ db.store.rules, ∃ n < db.nextId + 1, r.id = idOf n := by
      intro r hr
      obtain ⟨n, hn, hid⟩ := h r hr
      exact ⟨n, Nat.lt_succ_of_lt hn, hid⟩
    unfold Numbered
    rw [hnext]
    rcases save_cases db now q with ⟨hstore, -⟩ | ⟨g, rule, -, -, -, hid, -, hstore, -⟩
    · rw [hstore]
      exact hkept
    · rw [hstore]
      exact List.forall_mem_append.mpr
        ⟨hkept, List.forall_mem_singleton.mpr ⟨_, Nat.lt_succ_self _, hid⟩⟩

theorem update (h : db.Numbered) (now : Timestamp) (id : String) (u : UpdateRequest) :
    (Service.update db now id u).1.Numbered := by
  unfold Numbered
  rw [nextId_update]
  rcases update_cases db now id u with hstore | ⟨r, hfound, -, -, hstore, -⟩
  · rw [hstore]
    exact h
  · rw [hstore]
    intro x hx
    rcases Store.mem_replace hx with rfl | hx
    · exact h r (List.mem_of_find?_eq_some hfound)
    · exact h x hx

theorem delete (h : db.Numbered) (id : String) : (Service.delete db id).1.Numbered := by
  unfold Numbered
  rw [nextId_delete]
  unfold Service.delete
  cases hremove : db.store.remove id with
  | mk found store =>
    cases found with
    | false => exact h
    | true =>
      have hstore : store = ⟨db.store.rules.filter (·.id != id)⟩ :=
        (congrArg Prod.snd hremove).symm
      intro r hr
      rw [hstore] at hr
      exact h r (List.mem_of_mem_filter hr)

/-- **A step.** Whatever is asked, the ids in the store are of used numbers. -/
theorem handle (h : db.Numbered) (a : Arrival) :
    (Service.handle db a.now a.request).1.Numbered := by
  unfold Service.handle
  cases Endpoint.of a.request.method a.request.segments with
  | error e => cases e <;> exact h
  | ok endpoint =>
    -- Only three of the endpoints touch the database.
    cases endpoint with
    | save =>
      simp only [answer, checkedAnswer]
      cases decoded a.request.body SaveRequest.ofValue with
      | error e => exact h
      | ok q => exact h.save a.now q
    | update id =>
      simp only [answer, checkedAnswer]
      cases decoded a.request.body UpdateRequest.ofValue with
      | error e => exact h
      | ok u => exact h.update a.now id u
    | delete id => exact h.delete id
    | _ => exact h

end Database.Numbered

/-- **A run.** After any requests the ids in the store are of used numbers. -/
theorem Service.after_numbered (arrivals : List Arrival) :
    (after .empty arrivals).Numbered := by
  refine after_of_step (P := Database.Numbered) (fun _ a h => h.handle a) ?_ arrivals
  intro r hr
  exact absurd hr List.not_mem_nil

end Rulebook
