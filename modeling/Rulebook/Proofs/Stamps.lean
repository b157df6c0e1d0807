import Rulebook.Migration
import Rulebook.Proofs.Lookup

/-!
# Stamps and tables

The table of saved rules can be made by a migration or by the service itself, and the stamps, which
say how far migrations have come, are kept in a table of their own. No order of commands makes the
two drift apart: what every file has that commands can lead to is `DatabaseFile.Aligned`.

`Migration.Moves` is all that a step can do to a file. That it keeps a file aligned, and what
becomes of the stored rules, is read off its cases.
-/

set_option autoImplicit false

namespace Rulebook

namespace DatabaseFile

/-- The stored rules. Without the table there are none. -/
def rows (f : DatabaseFile) : List SavedRule :=
  match f.rules with
  | some t => t.store.rules
  | none => []

/-- The revision is among the stamps. -/
def Stamped (f : DatabaseFile) : Prop :=
  Migration.revision ∈ f.stamps.getD []

/-- Stamps and table fit together: the revision is the only stamp that there may be, the table is
there if it has been stamped, and it has the columns in which rules are kept. -/
structure Aligned (f : DatabaseFile) : Prop where
  stamps : ∀ rows, f.stamps = some rows → rows = [] ∨ rows = [Migration.revision]
  table : f.Stamped → f.rules ≠ none
  columns : ∀ t, f.rules = some t → t.columns = SavedRule.columns

theorem aligned_empty : empty.Aligned where
  stamps := nofun
  table := nofun
  columns := nofun

section Aligned

variable {f : DatabaseFile}

theorem Aligned.stamps_getD (h : f.Aligned) :
    f.stamps.getD [] = [] ∨ f.stamps.getD [] = [Migration.revision] := by
  cases hstamps : f.stamps with
  | none => exact .inl rfl
  | some rows => exact h.stamps rows hstamps

theorem Aligned.stamps_of_stamped (h : f.Aligned) (hstamped : f.Stamped) :
    f.stamps.getD [] = [Migration.revision] := by
  rcases h.stamps_getD with hnone | hone
  · exact absurd hstamped (by rw [Stamped, hnone]; exact List.not_mem_nil)
  · exact hone

theorem Aligned.stamps_of_not_stamped (h : f.Aligned) (hstamped : ¬ f.Stamped) :
    f.stamps.getD [] = [] := by
  rcases h.stamps_getD with hnone | hone
  · exact hnone
  · exact absurd (by rw [Stamped, hone]; exact List.mem_singleton_self _) hstamped

theorem Aligned.numbered (h : f.Aligned) (nextId : Nat) : Aligned { f with nextId } :=
  ⟨h.stamps, h.table, h.columns⟩

end Aligned

/-- The table is there, the old one or a new one. -/
theorem withRules_rules (f : DatabaseFile) (columns : List Column) :
    (f.withRules columns).rules = some (f.rules.getD ⟨columns, .empty⟩) := by
  unfold withRules
  cases hrules : f.rules with
  | none => rfl
  | some t => exact hrules

theorem withRules_stamps (f : DatabaseFile) (columns : List Column) :
    (f.withRules columns).stamps = f.stamps := by
  unfold withRules
  cases f.rules <;> rfl

end DatabaseFile

namespace Migration

open DatabaseFile

/-! ## What a step does -/

/-- What a step can do to a file. -/
inductive Moves (f : DatabaseFile) : Step → Result → DatabaseFile → Prop
  /-- Both tables stay as they are, but an empty table of stamps may be new. -/
  | kept {s : Step} {result : Result} {f' : DatabaseFile} (rules : f'.rules = f.rules)
    (stamps : f'.stamps = f.stamps ∨ f'.stamps = some (f.stamps.getD [])) : Moves f s result f'
  | created {f' : DatabaseFile}
    (rules : f'.rules = some (f.rules.getD ⟨SavedRule.columns, .empty⟩))
    (stamps : f'.stamps = f.stamps) : Moves f .create .created f'
  | applied {url text : String} {f' : DatabaseFile} (unstamped : ¬ f.Stamped)
    (rules : f'.rules = some (f.rules.getD ⟨columns, .empty⟩))
    (stamps : f'.stamps = some (f.stamps.getD [] ++ [revision])) :
    Moves f (.upgrade url text) .done f'
  | reverted {url text : String} {f' : DatabaseFile} (stamped : f.Stamped)
    (rules : f'.rules = none) (stamps : f'.stamps = some ((f.stamps.getD []).erase revision)) :
    Moves f (.downgrade url text) .done f'
  | added {id : Option String} {d : Draft} {f' : DatabaseFile} {t : RuleTable} {rule : SavedRule}
    (table : f.rules = some t)
    (rules : f'.rules = some { t with store := ⟨t.store.rules ++ [rule]⟩ })
    (stamps : f'.stamps = f.stamps) : Moves f (.add id d) (.stored (.rule rule)) f'

theorem levelOf_eq_head {stamps : List String} : levelOf stamps = .head ↔ revision ∈ stamps := by
  unfold levelOf
  split_ifs with h
  · simpa using h
  · simpa using h

theorem levelOf_eq_base {stamps : List String} : levelOf stamps = .base ↔ revision ∉ stamps := by
  unfold levelOf
  split_ifs with h
  · simpa using h
  · simpa using h

/-- A command does nothing, or it makes the table of stamps and fails, or it makes that table and
goes from one level to another. -/
theorem command_cases (goal : Level → String → Except CommandError Level)
    (step : Level → Level → DatabaseFile → DatabaseFile) (f : DatabaseFile) (url text : String) :
    (∃ e, command goal step f url text = (f, .error e)) ∨
      (∃ e, command goal step f url text = (withStamps f, .error e)) ∨
      ∃ reached, command goal step f url text =
        (step (levelOf (f.stamps.getD [])) reached (withStamps f), .ok ()) := by
  unfold command
  split_ifs with hrange
  · exact .inl ⟨_, rfl⟩
  · cases checkUrl url with
    | error e => exact .inl ⟨e, rfl⟩
    | ok u =>
      -- A table of stamps that is new is empty, so it stands for the same level as none.
      have hlevel : levelOf ((withStamps f).stamps.getD []) = levelOf (f.stamps.getD []) := rfl
      simp only [hlevel]
      cases goal (levelOf (f.stamps.getD [])) text with
      | error e => exact .inr (.inl ⟨_, rfl⟩)
      | ok reached => exact .inr (.inr ⟨reached, rfl⟩)

theorem upgrade_moves (f : DatabaseFile) (url text : String) :
    Moves f (.upgrade url text) (commandResult (upgrade f url text).2) (upgrade f url text).1 := by
  unfold upgrade
  rcases command_cases upgradeGoal (fun current reached f =>
    if current = .base ∧ reached = .head then apply f else f) f url text with
    ⟨e, h⟩ | ⟨e, h⟩ | ⟨reached, h⟩
  · rw [h]
    exact .kept rfl (.inl rfl)
  · rw [h]
    exact .kept rfl (.inr rfl)
  · rw [h]
    dsimp only
    split_ifs with hstep
    · refine .applied (levelOf_eq_base.mp hstep.1) ?_ ?_
      · exact withRules_rules (withStamps f) columns
      · show ((withStamps f).withRules columns).stamps.map (· ++ [revision]) = _
        rw [withRules_stamps]
        rfl
    · exact .kept rfl (.inr rfl)

theorem downgrade_moves (f : DatabaseFile) (url text : String) :
    Moves f (.downgrade url text) (commandResult (downgrade f url text).2)
      (downgrade f url text).1 := by
  unfold downgrade
  rcases command_cases downgradeGoal (fun current reached f =>
    if current = .head ∧ reached = .base then revert f else f) f url text with
    ⟨e, h⟩ | ⟨e, h⟩ | ⟨reached, h⟩
  · rw [h]
    exact .kept rfl (.inl rfl)
  · rw [h]
    exact .kept rfl (.inr rfl)
  · rw [h]
    dsimp only
    split_ifs with hstep
    · exact .reverted (levelOf_eq_head.mp hstep.1) rfl rfl
    · exact .kept rfl (.inr rfl)

theorem add_moves (f : DatabaseFile) (now : Timestamp) (id : Option String) (d : Draft) :
    Moves f (.add id d) (.stored (Database.ruleResult (f.add now id d).2)) (f.add now id d).1 := by
  unfold DatabaseFile.add
  cases htable : f.rules with
  | none => exact .kept htable.symm (.inl rfl)
  | some t =>
    simp only [Database.add]
    cases hadd : t.store.add now (id.getD (Database.idOf f.nextId)) d with
    | error e => cases id <;> exact .kept htable.symm (.inl rfl)
    | ok p =>
      obtain ⟨store, rule⟩ := p
      obtain ⟨-, -, -, -, -, rfl⟩ := Store.add_eq_ok.mp hadd
      exact .added htable rfl rfl

/-- **A step.** Whatever is done with a file, it is one of the moves. -/
theorem perform_moves (f : DatabaseFile) (now : Timestamp) (s : Step) :
    Moves f s (perform f now s).2 (perform f now s).1 := by
  cases s with
  | upgrade url text => exact upgrade_moves f url text
  | downgrade url text => exact downgrade_moves f url text
  | upgradeScript url text => exact .kept rfl (.inl rfl)
  | downgradeScript url text => exact .kept rfl (.inl rfl)
  | create => exact .created (withRules_rules f _) (withRules_stamps f _)
  | add id d => exact add_moves f now id d
  | list =>
    unfold perform
    cases f.list <;> exact .kept rfl (.inl rfl)

/-! ## What moves keep -/

section Kept

variable {f f' : DatabaseFile} {s : Step} {result : Result}

/-- Both ways of making the table make the same one. -/
theorem columns_getD (h : f.Aligned) {t : RuleTable}
    (ht : f.rules.getD ⟨SavedRule.columns, .empty⟩ = t) : t.columns = SavedRule.columns := by
  subst ht
  cases hrules : f.rules with
  | none => rfl
  | some t => exact h.columns t hrules

/-- **No move makes stamps and table drift apart.** -/
theorem Moves.aligned (hmoves : Moves f s result f') (h : f.Aligned) : f'.Aligned := by
  cases hmoves with
  | kept rules stamps =>
    have hsame : f'.stamps.getD [] = f.stamps.getD [] := by
      rcases stamps with hstamps | hstamps <;> rw [hstamps]
      rfl
    refine ⟨?_, ?_, ?_⟩
    · intro rows hrows
      rw [hrows, Option.getD_some] at hsame
      rw [hsame]
      exact h.stamps_getD
    · rw [Stamped, hsame, rules]
      exact h.table
    · rw [rules]
      exact h.columns
  | created rules stamps =>
    refine ⟨?_, ?_, ?_⟩
    · rw [stamps]
      exact h.stamps
    · simp [rules]
    · intro t ht
      exact columns_getD h (Option.some.inj (rules.symm.trans ht))
  | applied unstamped rules stamps =>
    refine ⟨?_, ?_, ?_⟩
    · intro rows hrows
      obtain rfl := Option.some.inj (stamps.symm.trans hrows)
      exact .inr (by rw [h.stamps_of_not_stamped unstamped, List.nil_append])
    · simp [rules]
    · intro t ht
      exact columns_getD h (Option.some.inj (rules.symm.trans ht))
  | reverted stamped rules stamps =>
    rw [h.stamps_of_stamped stamped, List.erase_cons_head] at stamps
    refine ⟨?_, ?_, ?_⟩
    · intro rows hrows
      exact .inl (Option.some.inj (hrows.symm.trans stamps))
    · intro hstamped
      rw [Stamped, stamps] at hstamped
      exact absurd hstamped List.not_mem_nil
    · rw [rules]
      exact nofun
  | added table rules stamps =>
    refine ⟨?_, ?_, ?_⟩
    · rw [stamps]
      exact h.stamps
    · simp [rules]
    · intro t' ht
      obtain rfl := Option.some.inj (rules.symm.trans ht)
      have hcolumns := h.columns _ table
      exact hcolumns

/-- **Where stored rules may go.** They stay as they are and in their places; one may be added at
the end; and all are gone when a stamped file is taken down to the base. -/
theorem Moves.rows (hmoves : Moves f s result f') (h : f.Aligned) :
    f'.rows = f.rows ∨
      (∃ id d rule, s = .add id d ∧ result = .stored (.rule rule) ∧ f'.rows = f.rows ++ [rule]) ∨
      ∃ url text, s = .downgrade url text ∧ result = .done ∧ f.Stamped ∧ ¬ f'.Stamped ∧
        f'.rules = none := by
  have hmade : ∀ columns, f'.rules = some (f.rules.getD ⟨columns, .empty⟩) → f'.rows = f.rows := by
    intro columns hrules
    unfold DatabaseFile.rows
    rw [hrules]
    cases f.rules <;> rfl
  cases hmoves with
  | kept rules stamps =>
    left
    rw [DatabaseFile.rows, rules]
    rfl
  | created rules stamps => exact .inl (hmade _ rules)
  | applied unstamped rules stamps => exact .inl (hmade _ rules)
  | reverted stamped rules stamps =>
    refine .inr (.inr ⟨_, _, rfl, rfl, stamped, ?_, rules⟩)
    rw [Stamped, stamps, h.stamps_of_stamped stamped, List.erase_cons_head]
    exact List.not_mem_nil
  | added table rules stamps =>
    refine .inr (.inl ⟨_, _, _, rfl, rfl, ?_⟩)
    unfold DatabaseFile.rows
    rw [rules, table]

end Kept

/-! ## Any steps -/

/-- A step at a moment, with the number from which a new id is made. -/
structure Turn where
  now : Timestamp
  nextId : Nat
  step : Step

/-- The file after a step with its own number for a new id, and what comes of it. -/
def take (f : DatabaseFile) (t : Turn) : DatabaseFile × Result :=
  perform { f with nextId := t.nextId } t.now t.step

/-- The file after some steps, one after the other. -/
def after (f : DatabaseFile) : List Turn → DatabaseFile
  | [] => f
  | t :: rest => after (take f t).1 rest

theorem Aligned.after {f : DatabaseFile} (h : f.Aligned) (turns : List Turn) :
    (Migration.after f turns).Aligned := by
  induction turns generalizing f with
  | nil => exact h
  | cons t rest ih =>
    exact ih ((perform_moves _ t.now t.step).aligned (h.numbered t.nextId))

/-- **Schema and stamps never drift apart.** Whatever commands are run on a file that is not there
at first, the only stamp is the revision; a stamped file has the table of saved rules; and the table
has the columns in which rules are kept, whoever made it. In every such file any further step leaves
the stored rules as they are, with two exceptions: a rule that is added comes last, and a downgrade
that takes a stamped file to the base drops the table. -/
theorem schema_follows_stamps (turns : List Turn) (t : Turn) :
    let f := after .empty turns
    let f' := (take f t).1
    f.Aligned ∧
      (f'.rows = f.rows ∨
        (∃ id d rule, t.step = .add id d ∧ (take f t).2 = .stored (.rule rule) ∧
          f'.rows = f.rows ++ [rule]) ∨
        ∃ url text, t.step = .downgrade url text ∧ (take f t).2 = .done ∧ f.Stamped ∧
          ¬ f'.Stamped ∧ f'.rules = none) := by
  intro f f'
  have haligned : f.Aligned := Aligned.after aligned_empty turns
  exact ⟨haligned, (perform_moves _ t.now t.step).rows (haligned.numbered t.nextId)⟩

end Migration

end Rulebook
