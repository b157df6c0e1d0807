import Rulebook.Proofs.OwnText

/-!
# Patterns of ordinary characters

A pattern without any of the marks that patterns are made with says no more than its characters, one
after the other. It is read as the sequence of them (`Pattern.parse_of_plain`), blanks, `#` and line
ends included, because no switch has made it verbose. The search then finds it where it occurs as it
stands (`Pattern.occurs_spelled`), so `matches` and `contains` come to the same
(`Condition.matches_eq_contains`).
-/

set_option autoImplicit false

namespace Rulebook

namespace Pattern

/-- The characters by which a pattern says more than that they come next. A closing bracket or brace
means nothing without an opening one. -/
def marks : List Char := "\\^$.|?*+()[\x7b".toList

/-- No character of a text means anything but itself in a pattern. -/
def Plain (s : List Char) : Prop :=
  ∀ c ∈ s, c ∉ marks

/-- The term for one character. -/
def letter (c : Char) : Term :=
  .code c.toNat false

/-- The term for some characters, one after the other. -/
def spelled (s : List Char) : Term :=
  .ofItems (s.map letter)

/-! ## Reading -/

theorem sequence_cons_of_not_mem {c : Char} (hc : c ∉ marks) (fuel depth : Nat) (first : Bool)
    (items : List Term) (s : List Char) (l : Ledger) :
    sequence (fuel + 1) depth false first items (c :: s) l =
      sequence fuel depth false first (letter c :: items) s l := by
  have hne : ∀ mark ∈ marks, ¬ c = mark := by
    intro mark hmark heq
    exact hc (heq ▸ hmark)
  rw [sequence]
  -- Every other branch of the reader begins with a mark.
  · have hends : ¬ (c = '|' ∨ c = ')') := by
      simp [hne '|' (by decide), hne ')' (by decide)]
    simp [hends, letter]
  all_goals exact hne _ (by decide)

/-- Ordinary characters are read one by one, up to the end. -/
theorem sequence_of_plain {s : List Char} (hs : Plain s) {fuel : Nat} (hfuel : s.length < fuel)
    (depth : Nat) (first : Bool) (items : List Term) (l : Ledger) :
    sequence fuel depth false first items s l =
      .ok (.ofItems (items.reverse ++ s.map letter), [], l) := by
  induction s generalizing fuel items with
  | nil =>
    cases fuel with
    | zero => simp at hfuel
    | succ fuel => simp [sequence]
  | cons c s ih =>
    obtain ⟨hc, hrest⟩ := List.forall_mem_cons.mp hs
    cases fuel with
    | zero => simp at hfuel
    | succ fuel =>
      rw [sequence_cons_of_not_mem hc, ih hrest (by simpa using hfuel)]
      simp

theorem choice_of_plain {s : List Char} (hs : Plain s) {fuel : Nat} (hfuel : s.length < fuel)
    (depth : Nat) (first : Bool) (l : Ledger) :
    choice (fuel + 1) depth false first s l = .ok (spelled s, [], l) := by
  rw [choice, sequence_of_plain hs hfuel]
  rfl

/-- **A pattern without marks is its characters.** -/
theorem parse_of_plain {text : String} (h : Plain text.toList) :
    parse text = .ok ⟨{}, spelled text.toList⟩ := by
  have hfuel : text.toList.length < 3 * text.toList.length + 2 := by omega
  unfold parse
  dsimp only
  rw [choice_of_plain h hfuel]
  rfl

/-! ## Searching -/

variable {flags : Flags} (hcase : flags.ignoreCase = false)

/-- What a sequence starts with comes first. -/
theorem run_ofItems_cons (p : Term) (ps : List Term) (flags : Flags) (s : Spot)
    (k : Continuation) :
    (Term.ofItems (p :: ps)).run flags s k =
      p.run flags s fun t => (Term.ofItems ps).run flags t k := by
  cases ps with
  | nil => rfl
  | cons q ps => rfl

include hcase

theorem run_letter (c : Char) (s : Spot) (k : Continuation) :
    (letter c).run flags s k =
      match s.after with
      | d :: rest => if c = d then k (s.step d rest) else none
      | [] => none := by
  unfold letter Term.run one
  cases s.after with
  | nil => rfl
  | cons d rest =>
    simp [Flags.acceptsCode, hcase, ← Char.toNat_inj]

/-- Characters match from a place if they come next. -/
theorem isSome_run_spelled (cs : List Char) (s : Spot) :
    ((spelled cs).run flags s some).isSome = cs.isPrefixOf s.after := by
  induction cs generalizing s with
  | nil => simp [spelled, Term.ofItems, Term.run]
  | cons c cs ih =>
    unfold spelled at ih ⊢
    rw [List.map_cons, run_ofItems_cons, run_letter hcase]
    cases hafter : s.after with
    | nil => rfl
    | cons d rest =>
      by_cases hcd : c = d
      · simp [hcd, ih, Spot.step]
      · simp [hcd, List.isPrefixOf_cons_cons]

theorem foundFrom_spelled (cs before text : List Char) :
    (spelled cs).foundFrom flags before text = Condition.occursIn cs text := by
  induction text generalizing before with
  | nil =>
    rw [Term.foundFrom, Condition.occursIn, isSome_run_spelled hcase]
    cases cs <;> rfl
  | cons c text ih =>
    simp [Term.foundFrom, Condition.occursIn, isSome_run_spelled hcase, ih]

/-- **Characters are found where they occur.** -/
theorem occurs_spelled (cs text : List Char) :
    (spelled cs).occurs flags text = Condition.occursIn cs text :=
  foundFrom_spelled hcase cs [] text

end Pattern

namespace Condition

theorem holds_matches_of_plain (actual expected : Value)
    (hplain : ∀ part, expected.display = .ok part → Pattern.Plain part.toList) :
    holds .matches actual expected = holds .contains actual expected := by
  unfold holds matchesPattern text
  cases hexpected : expected.display with
  | error e => rfl
  | ok part =>
    have hparse := Pattern.parse_of_plain (hplain part hexpected)
    cases hactual : actual.display with
    | error e => simp [Except.mapError, hparse, bind, Except.bind]
    | ok whole =>
      simp [Except.mapError, hparse, Pattern.occurs_spelled, bind, Except.bind, pure, Except.pure]

/-- **On plain text `matches` and `contains` agree.** If the text of a literal has no mark in it the
two conditions have the same outcome on every value, or fail alike. Where both texts are there, they
have one: the literal's text is a pattern, which the search finds exactly if it occurs in the text
of the value. -/
theorem matches_eq_contains (actual : Value) (literal : String)
    (hplain : ∀ part, (Value.ofLiteral literal).display = .ok part → Pattern.Plain part.toList) :
    evaluate actual "matches" literal = evaluate actual "contains" literal ∧
    ∀ part whole, (Value.ofLiteral literal).display = .ok part → actual.display = .ok whole →
      ∃ pattern found, Pattern.parse part = .ok pattern ∧
        pattern.term.occurs pattern.flags whole.toList = found ∧
        (found = true ↔ part.toList <:+: whole.toList) ∧
        evaluate actual "matches" literal = .ok found := by
  have hsame : evaluate actual "matches" literal = evaluate actual "contains" literal := by
    show evaluate actual Operator.matches.tag literal =
      evaluate actual Operator.contains.tag literal
    rw [evaluate_tag, evaluate_tag, holds_matches_of_plain _ _ hplain]
  refine ⟨hsame, ?_⟩
  intro part whole hpart hwhole
  refine ⟨_, _, Pattern.parse_of_plain (hplain part hpart), Pattern.occurs_spelled rfl _ _,
    occursIn_iff, ?_⟩
  rw [hsame, evaluate_contains hpart hwhole]

/-- Blanks and `#` are as ordinary as letters. -/
theorem matches_eq_contains_spaced :
    (∀ part, (Value.ofLiteral "# in ").display = .ok part → Pattern.Plain part.toList) ∧
      (Value.ofLiteral "# in ").display = .ok "# in " ∧
      evaluate (.text "C# in depth") "matches" "# in " =
        evaluate (.text "C# in depth") "contains" "# in " ∧
      evaluate (.text "C# in depth") "matches" "# in " = .ok true := by
  have hread : Literal.read "# in " = .text "# in " := rfl
  have hpart : (Value.ofLiteral "# in ").display = .ok "# in " := by
    rw [Value.ofLiteral, hread]
    rfl
  have hplain : ∀ part, (Value.ofLiteral "# in ").display = .ok part →
      Pattern.Plain part.toList := by
    intro part h
    obtain rfl := Except.ok.inj (hpart.symm.trans h)
    have hnone : ("# in ".toList.all fun c => !Pattern.marks.contains c) = true := by decide
    intro c hc hmark
    have hfree := List.all_eq_true.mp hnone c hc
    exact absurd (List.contains_iff_mem.mpr hmark) (by simpa using hfree)
  have hinfix : "# in ".toList <:+: "C# in depth".toList := ⟨"C".toList, "depth".toList, rfl⟩
  obtain ⟨hsame, hfinds⟩ := matches_eq_contains (.text "C# in depth") "# in " hplain
  obtain ⟨pattern, found, -, -, hfound, hresult⟩ := hfinds _ _ hpart rfl
  refine ⟨hplain, hpart, hsame, ?_⟩
  rw [hresult, hfound.mpr hinfix]

end Condition

end Rulebook
