import Rulebook.Drl
import Rulebook.Proofs.Acting
import Rulebook.Proofs.Spelling

/-!
# What a generated rule says and what a simulation does

The value of a condition or an action is authored as text. A simulation takes it for the value that
`Literal.read` sees in it, and a generated rule has a token for it. The two agree when the token is
the text in double quotes exactly where the simulation takes it for a text, and means the same
number or truth value everywhere else.

Patterns and setters get their tokens from `Literal.token`, which goes by `Literal.read` as well, so
there only a blank value makes a difference: it counts as zero, and a blank token says nothing. In
the block of a modification the value stands as it was authored, so a text has no quotes there.
`Drl.document_agrees_iff` is the exact condition for a whole rule.
-/

set_option autoImplicit false

namespace Rulebook

/-! ## What a literal is taken for -/

namespace Value

/-- Whether a value is a text. -/
def IsText (v : Value) : Prop :=
  ∃ s, v = .text s

theorem not_isText_ofNumber (n : Number) : ¬ (ofNumber n).IsText := by
  rintro ⟨s, hs⟩
  cases n <;> exact nomatch hs

theorem not_isText_bool (b : Bool) : ¬ (Value.bool b).IsText := by
  rintro ⟨s, hs⟩
  exact nomatch hs

end Value

namespace Literal

variable {t : String}

/-- The word for a truth value. -/
def word (b : Bool) : String :=
  if b then "true" else "false"

/-- An authored text is a numeral, the word for a truth value, or neither of these. -/
theorem read_cases (t : String) :
    (∃ n, Numeral.number? t.toList = some n ∧ read t = .number n) ∨
      (∃ b, t = word b ∧ read t = .truth b) ∨ read t = .text t := by
  unfold read
  cases hn : Numeral.number? t.toList with
  | some n => exact .inl ⟨n, rfl, rfl⟩
  | none =>
    refine .inr ?_
    by_cases htrue : t = "true"
    · exact .inl ⟨true, htrue, by simp [htrue]⟩
    · by_cases hfalse : t = "false"
      · exact .inl ⟨false, hfalse, by simp [hfalse]⟩
      · exact .inr (by simp [htrue, hfalse])

theorem ofLiteral_of_read {m : Literal} (h : read t = m) : Value.ofLiteral t = m.value := by
  rw [Value.ofLiteral, h]

/-- What is taken for a text stays as it was authored. -/
theorem isText_ofLiteral_iff : (Value.ofLiteral t).IsText ↔ read t = .text t := by
  constructor
  · intro htext
    rcases read_cases t with ⟨n, -, hread⟩ | ⟨b, -, hread⟩ | hread
    · rw [ofLiteral_of_read hread] at htext
      exact absurd htext (Value.not_isText_ofNumber n)
    · rw [ofLiteral_of_read hread] at htext
      exact absurd htext (Value.not_isText_bool b)
    · exact hread
  · intro hread
    exact ⟨t, ofLiteral_of_read hread⟩

instance (t : String) : Decidable (Value.ofLiteral t).IsText :=
  decidable_of_iff _ isText_ofLiteral_iff.symm

/-- What is taken for a text is not blank. -/
theorem filled_of_isText (h : (Value.ofLiteral t).IsText) : Text.isBlankText t = false := by
  by_contra hblank
  have htrim : Text.trim t.toList = [] :=
    (Text.isBlankText_iff t).mp (by simpa using hblank)
  have hzero : Numeral.number? t.toList = some (.int 0) :=
    Numeral.number?_eq_some_iff.mpr (.inl ⟨htrim, rfl⟩)
  have hread : read t = .number (.int 0) := by rw [read, hzero]
  exact nomatch hread.symm.trans (isText_ofLiteral_iff.mp h)

theorem token_of_isText (h : (Value.ofLiteral t).IsText) : token t = "\"" ++ t ++ "\"" := by
  rw [token, isText_ofLiteral_iff.mp h]

theorem token_of_not_isText (h : ¬ (Value.ofLiteral t).IsText) : token t = t := by
  rw [isText_ofLiteral_iff] at h
  rcases read_cases t with ⟨n, -, hread⟩ | ⟨b, -, hread⟩ | hread
  · rw [token, hread]
  · rw [token, hread]
  · exact absurd hread h

theorem not_spells_word (b : Bool) (n : Number) : ¬ Numeral.Spells (word b).toList n := by
  intro h
  have htrim : Text.trim (word b).toList = (word b).toList := by cases b <;> decide
  have hnone : Numeral.number? (word b).toList = none := by cases b <;> decide
  have hread : Numeral.number? (word b).toList = some n :=
    Numeral.number?_eq_some_iff.mpr (.inr (by rwa [htrim]))
  exact nomatch hnone.symm.trans hread

end Literal

/-! ## What a token means -/

namespace Drl

/-- What a token without quotes means: a truth value or a number. -/
inductive Bare : List Char → Value → Prop
  | truth (b : Bool) : Bare (Literal.word b).toList (.bool b)
  | number {cs : List Char} {n : Number} (h : Numeral.Spells cs n) : Bare cs (.ofNumber n)

/-- A token stands for what a simulation takes a literal for: the token is the literal in double
quotes exactly if that is a text, and otherwise it is not blank and means just that number or truth
value. -/
structure Agrees (token literal : String) : Prop where
  quoted : token = "\"" ++ literal ++ "\"" ↔ (Value.ofLiteral literal).IsText
  filled : ¬ (Value.ofLiteral literal).IsText → Text.isBlankText token = false
  bare : ¬ (Value.ofLiteral literal).IsText →
    ∀ v, Bare (Text.trim token.toList) v ↔ v = Value.ofLiteral literal

/-- The token that a statement hands to a setter. -/
def Statement.argument? : Statement → Option String
  | .setProperty _ _ literal => some literal
  | .modify _ _ literal => some literal
  | _ => none

/-- The tokens of a rule agree with what a simulation of it compares with and stores. -/
@[mk_iff]
structure LiteralsAgree (r : LinkedRule) : Prop where
  conditions : List.Forall₂ (fun c b => Agrees b.literal c.content.literal) r.conditions
    (Document.ofLinked r).bindings
  actions : List.Forall₂
    (fun a s => ∀ token, s.argument? = some token → Agrees token a.content.literal) r.actions
    (Document.ofLinked r).statements

section Tokens

variable {t : String}

/-- Of what is no text, the characters that are not blanks around it mean its value and no other.
-/
theorem bare_iff (htext : ¬ (Value.ofLiteral t).IsText) (hfilled : Text.isBlankText t = false)
    (v : Value) : Bare (Text.trim t.toList) v ↔ v = Value.ofLiteral t := by
  have htrim : Text.trim t.toList ≠ [] := by
    rw [Ne, ← Text.isBlankText_iff, hfilled]
    exact Bool.false_ne_true
  rcases Literal.read_cases t with ⟨n, hn, hread⟩ | ⟨b, rfl, hread⟩ | hread
  · -- A numeral: the characters spell this number, and they are no word.
    have hspells : ∀ m, Numeral.Spells (Text.trim t.toList) m ↔ n = m := by
      intro m
      have hsome : Numeral.number? t.toList = some m ↔ _ := Numeral.number?_eq_some_iff
      simpa [htrim, hn] using hsome.symm
    rw [Literal.ofLiteral_of_read hread]
    constructor
    · intro h
      generalize htoken : Text.trim t.toList = cs at h
      rw [htoken] at hspells
      cases h with
      | truth b => exact absurd ((hspells n).mpr rfl) (Literal.not_spells_word b n)
      | number h =>
        obtain rfl := (hspells _).mp h
        rfl
    · rintro rfl
      exact .number ((hspells n).mpr rfl)
  · -- A word: it is no numeral, and the other word differs.
    have hsame : Text.trim (Literal.word b).toList = (Literal.word b).toList := by
      cases b <;> decide
    rw [Literal.ofLiteral_of_read hread, hsame]
    constructor
    · intro h
      generalize htoken : (Literal.word b).toList = cs at h
      cases h with
      | truth b' =>
        obtain rfl : b = b' := by
          revert htoken
          cases b <;> cases b' <;> decide
        rfl
      | number h => exact absurd (htoken ▸ h) (Literal.not_spells_word b _)
    · rintro rfl
      exact .truth b
  · exact absurd (Literal.isText_ofLiteral_iff.mpr hread) htext

/-- A text is shorter than the same in quotes. -/
theorem ne_quoted (t : String) : t ≠ "\"" ++ t ++ "\"" := by
  intro h
  have hlength := congrArg String.length h
  have hquote : "\"".length = 1 := rfl
  rw [String.length_append, String.length_append, hquote] at hlength
  omega

/-- **Where the token follows the reader.** It agrees unless the literal is blank. -/
theorem agrees_token_iff : Agrees (Literal.token t) t ↔ Text.isBlankText t = false := by
  by_cases htext : (Value.ofLiteral t).IsText
  · have htoken := Literal.token_of_isText htext
    refine ⟨fun _ => Literal.filled_of_isText htext, fun _ => ?_⟩
    exact ⟨⟨fun _ => htext, fun _ => htoken⟩, fun h => absurd htext h, fun h => absurd htext h⟩
  · rw [Literal.token_of_not_isText htext]
    constructor
    · intro h
      exact h.filled htext
    · intro hfilled
      exact ⟨⟨fun h => absurd h (ne_quoted t), fun h => absurd h htext⟩, fun _ => hfilled,
        fun _ v => bare_iff htext hfilled v⟩

/-- **Where the token is the literal as authored.** It agrees if that is neither blank nor a text.
-/
theorem agrees_self_iff :
    Agrees t t ↔ Text.isBlankText t = false ∧ ¬ (Value.ofLiteral t).IsText := by
  constructor
  · intro h
    have htext : ¬ (Value.ofLiteral t).IsText := fun htext => ne_quoted t (h.quoted.mpr htext)
    exact ⟨h.filled htext, htext⟩
  · rintro ⟨hfilled, htext⟩
    exact ⟨⟨fun h => absurd h (ne_quoted t), fun h => absurd h htext⟩, fun _ => hfilled,
      fun _ v => bare_iff htext hfilled v⟩

end Tokens

/-! ## A whole rule -/

theorem Document.ofLinked_bindings (r : LinkedRule) :
    (ofLinked r).bindings = r.conditions.map fun c => .ofCondition c.content := rfl

theorem Document.ofLinked_statements (r : LinkedRule) :
    (ofLinked r).statements = r.actions.map fun a => .ofAction a.content := rfl

/-- What it takes for the token of an action to agree. -/
theorem agrees_ofAction_iff (a : Action) :
    (∀ token, (Statement.ofAction a).argument? = some token → Agrees token a.literal) ↔
      (ActionKind.ofTag? a.tag = some .setProperty → Text.isBlankText a.literal = false) ∧
      (ActionKind.ofTag? a.tag = some .modifyFact →
        Text.isBlankText a.literal = false ∧ ¬ (Value.ofLiteral a.literal).IsText) := by
  unfold Statement.ofAction
  cases hkind : ActionKind.ofTag? a.tag with
  | none => simp [Statement.argument?]
  | some kind =>
    cases kind with
    | setProperty => simp [Statement.argument?, agrees_token_iff]
    | modifyFact => simp [Statement.argument?, agrees_self_iff]
    | callMethod | insertFact | deleteFact => simp [Statement.argument?]

/-- What an action that goes through stores at its target is what its literal is taken for. -/
theorem resolve_effect {a : Action} {ms : Members} {keys : List String} {after : Value}
    (hassigns : a.keys? = some keys) (hdone : Simulation.effect (.object ms) a = (after, a.done)) :
    after.resolve a.target = .ofLiteral a.literal := by
  obtain ⟨-, rfl⟩ := Action.keys?_eq_some hassigns
  rw [Simulation.effect_object ms hassigns] at hdone
  cases hobstacle : Slot.obstacle? "" (some (.object ms)) (Path.segments a.target) with
  | some blocking =>
    rw [hobstacle] at hdone
    exact absurd (congrArg Prod.snd hdone).symm (Action.done_ne_failed a _)
  | none =>
    rw [hobstacle] at hdone
    obtain rfl : Slot.set _ _ _ = after := congrArg Prod.fst hdone
    exact Slot.follow_set hobstacle

/-- **Which rules mean what they simulate.** The tokens of a generated rule agree with the values of
its simulation exactly when no condition and no setter has a blank value, and every modification a
value that is neither blank nor a text. What is simulated is in any case what the literal is taken
for: a condition is compared with it, and it is found at the target of an action that goes
through. -/
theorem document_agrees_iff (r : LinkedRule) :
    (LiteralsAgree r ↔
      (∀ c ∈ r.conditions, Text.isBlankText c.content.literal = false) ∧
      ∀ a ∈ r.actions,
        (ActionKind.ofTag? a.content.tag = some .setProperty →
          Text.isBlankText a.content.literal = false) ∧
        (ActionKind.ofTag? a.content.tag = some .modifyFact →
          Text.isBlankText a.content.literal = false ∧
            ¬ (Value.ofLiteral a.content.literal).IsText)) ∧
    (∀ c ∈ r.conditions, ∀ op, Operator.ofTag? c.content.operator = some op → ∀ actual,
      Condition.evaluate actual c.content.operator c.content.literal =
        Condition.holds op actual (.ofLiteral c.content.literal)) ∧
    ∀ a ∈ r.actions, ∀ keys, a.content.keys? = some keys → ∀ ms after,
      Simulation.effect (.object ms) a.content = (after, a.content.done) →
        after.resolve a.content.target = .ofLiteral a.content.literal := by
  refine ⟨?_, ?_, ?_⟩
  · rw [literalsAgree_iff]
    apply and_congr
    · rw [Document.ofLinked_bindings, List.forall₂_map_right_iff, List.forall₂_same]
      exact forall₂_congr fun c _ => agrees_token_iff
    · rw [Document.ofLinked_statements, List.forall₂_map_right_iff, List.forall₂_same]
      exact forall₂_congr fun a _ => agrees_ofAction_iff a.content
  · intro c _ op hop actual
    rw [Condition.evaluate, hop]
  · intro a _ keys hkeys ms after hdone
    exact resolve_effect hkeys hdone

/-- A rule with literals of all kinds, some with blanks around them. -/
def spelled : LinkedRule where
  rule := ⟨"r", "Spelled", "", 1⟩
  conditions := [⟨"hex", "order.code", "==", " 0x1F "⟩, ⟨"sum", "order.sum", "<", "-.5e1"⟩,
    ⟨"word", "order.paid", "==", " true"⟩, ⟨"all", "order.limit", "<=", "+Infinity"⟩]
  actions := [⟨"s", "setProperty", "order.state", "sent"⟩,
    ⟨"v", "setProperty", "order.vip", "true"⟩, ⟨"m", "modifyFact", "order.rank", "1e3"⟩,
    ⟨"i", "insertFact", "audit", ""⟩]

theorem document_agrees_spelled : LiteralsAgree spelled := by
  refine (document_agrees_iff spelled).1.mpr ⟨?_, ?_⟩
  · decide
  · decide

/-- A rule that modifies a property to a text. -/
def promoting : LinkedRule where
  rule := ⟨"r", "Promoting", "", 1⟩
  conditions := [⟨"c", "customer.age", ">=", "18"⟩]
  actions := [⟨"x", "modifyFact", "customer.level", "gold"⟩]

/-- **A modification to a text does not agree.** The simulation stores the text, and the generated
rule has the bare name in its place. -/
theorem modified_text_unquoted :
    (Document.ofLinked promoting).thenLines =
      ["    modify($customer) \x7b", "        setLevel(gold)", "    \x7d",
        "    update($customer);"] ∧
    promoting.actions.map (fun a => (Simulation.effect (.object []) a.content).1) =
      [.object [("customer", .object [("level", .text "gold")])]] ∧
    ¬ LiteralsAgree promoting := by
  refine ⟨rfl, rfl, ?_⟩
  intro h
  have hagrees : Agrees "gold" "gold" := by
    rcases h.actions with _ | ⟨hgold, -⟩
    exact hgold "gold" rfl
  have hread : Literal.read "gold" = .text "gold" := rfl
  exact ne_quoted "gold" (hagrees.quoted.mpr (Literal.isText_ofLiteral_iff.mpr hread))

end Drl

end Rulebook
