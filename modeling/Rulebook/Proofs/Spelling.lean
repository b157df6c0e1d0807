import Mathlib.Data.List.Forall2
import Rulebook.Numeral

/-!
# How numbers are spelled

`Numeral.Spells` is the grammar of numerals as a relation between characters and numbers, one rule
for each way to write a number. It does not say how a numeral is found, in which order the ways are
tried or where a run of digits ends. `Numeral.number?_eq_some_iff` says that the reader of literals
finds exactly these numerals, with blanks around them or without, and zero in what is blank.

The readers of the parts give back what they leave over. Each of them gets two lemmas: what it read
is a part of that kind, and a part of that kind is read as a whole when what follows it cannot
belong to it.
-/

set_option autoImplicit false

namespace Rulebook.Numeral

/-! ## The grammar -/

/-- Digits with their values, in a notation that says which characters are digits. -/
def Run (value? : Char → Option Nat) (cs : List Char) (ds : List Nat) : Prop :=
  List.Forall₂ (fun c d => value? c = some d) cs ds

/-- A sign, or none, and whether it is a minus. -/
inductive Sign : List Char → Bool → Prop
  | none : Sign [] false
  | plus : Sign ['+'] false
  | minus : Sign ['-'] true

/-- Whole digits, a point and decimal places, of which the places may be missing, or both the point
and the places, or the whole digits. -/
inductive Places : List Char → List Nat → List Nat → Prop
  | whole {cs : List Char} {ds : List Nat} (hds : ds ≠ []) (hrun : Run Text.digitValue? cs ds) :
    Places cs ds []
  | pointed {cs es : List Char} {ds fs : List Nat} (hds : ds ≠ [])
    (hrun : Run Text.digitValue? cs ds) (hplaces : Run Text.digitValue? es fs) :
    Places (cs ++ '.' :: es) ds fs
  | fraction {es : List Char} {fs : List Nat} (hfs : fs ≠ [])
    (hplaces : Run Text.digitValue? es fs) : Places ('.' :: es) [] fs

/-- An exponent, or none. -/
inductive Exponent : List Char → Int → Prop
  | none : Exponent [] 0
  | given {letter : Char} {before cs : List Char} {negative : Bool} {ds : List Nat}
    (hletter : letter = 'e' ∨ letter = 'E') (hsign : Sign before negative) (hds : ds ≠ [])
    (hrun : Run Text.digitValue? cs ds) :
    Exponent (letter :: (before ++ cs))
      (if negative then -(Text.ofDigits 10 ds : Int) else Text.ofDigits 10 ds)

/-- A decimal numeral and the decimal that it denotes. -/
inductive SpellsDecimal : List Char → Decimal → Prop
  | mk {before cs after : List Char} {negative : Bool} {ds fs : List Nat} {x : Int}
    (hsign : Sign before negative) (hplaces : Places cs ds fs) (hexponent : Exponent after x) :
    SpellsDecimal (before ++ (cs ++ after))
      ⟨negative, Text.ofDigits 10 (ds ++ fs), x - (fs.length : Int)⟩

/-- A numeral and the number that it denotes. -/
inductive Spells : List Char → Number → Prop
  | radix {letter : Char} {base : Nat} {cs : List Char} {ds : List Nat}
    (hletter : radix? letter = some base) (hds : ds ≠ [])
    (hrun : Run (Text.radixDigit? base) cs ds) :
    Spells ('0' :: letter :: cs) (.int (Text.ofDigits base ds))
  | infinity {before : List Char} {negative : Bool} (hsign : Sign before negative) :
    Spells (before ++ "Infinity".toList) (.double (.infinity negative))
  | decimal {cs : List Char} {d : Decimal} (hdecimal : SpellsDecimal cs d) :
    Spells cs (ofDouble d.toDouble)

/-! ## Digits and signs -/

section Parts

variable {s cs rest : List Char} {ds fs : List Nat} {negative : Bool} {x : Int}

theorem Run.ne_nil {value? : Char → Option Nat} (h : Run value? cs ds) (hds : ds ≠ []) :
    cs ≠ [] := by
  rintro rfl
  cases h
  exact hds rfl

/-- Characters that are read one by one are a run of what is read. -/
theorem run_iff_mapM {value? : Char → Option Nat} :
    cs.mapM value? = some ds ↔ Run value? cs ds := by
  induction cs generalizing ds with
  | nil => cases ds <;> simp [Run]
  | cons c cs ih =>
    unfold Run at ih ⊢
    rw [List.mapM_cons]
    cases ds with
    | nil => simp [Option.bind_eq_some_iff]
    | cons d ds => simp [Option.bind_eq_some_iff, ih]

theorem digits_eq (s : List Char) :
    ∃ cs, s = cs ++ (digits s).2 ∧ Run Text.digitValue? cs (digits s).1 ∧
      ∀ c ∈ (digits s).2.head?, Text.digitValue? c = none := by
  induction s with
  | nil => exact ⟨[], rfl, .nil, nofun⟩
  | cons c s ih =>
    unfold digits
    cases hc : Text.digitValue? c with
    | none => exact ⟨[], rfl, .nil, by simpa using hc⟩
    | some d =>
      obtain ⟨cs, hs, hrun, hend⟩ := ih
      exact ⟨c :: cs, congrArg (c :: ·) hs, .cons hc hrun, hend⟩

theorem digits_append (h : Run Text.digitValue? cs ds) (rest : List Char)
    (hrest : ∀ c ∈ rest.head?, Text.digitValue? c = none) : digits (cs ++ rest) = (ds, rest) := by
  induction h with
  | nil =>
    cases rest with
    | nil => rfl
    | cons c rest => simp [digits, hrest c rfl]
  | cons hc _ ih => simp [digits, hc, ih]

theorem sign_eq (s : List Char) : ∃ cs, s = cs ++ (sign s).2 ∧ Sign cs (sign s).1 := by
  unfold sign
  split
  · exact ⟨['-'], rfl, .minus⟩
  · exact ⟨['+'], rfl, .plus⟩
  · exact ⟨[], rfl, .none⟩

theorem sign_append (h : Sign cs negative) (hrest : ∀ c ∈ rest.head?, c ≠ '-' ∧ c ≠ '+') :
    sign (cs ++ rest) = (negative, rest) := by
  cases h with
  | plus => rfl
  | minus => rfl
  | none =>
    rw [List.nil_append]
    unfold sign
    split
    · exact absurd rfl (hrest _ rfl).1
    · exact absurd rfl (hrest _ rfl).2
    · rfl

/-- The characters besides digits that decimals are made of or that tell other numerals apart. -/
def marks : List Char := "+-.eEIxXoObB".toList

theorem digitValue?_of_mem_marks : ∀ c ∈ marks, Text.digitValue? c = none := by
  have hall : (marks.all fun c => (Text.digitValue? c).isNone) = true := by decide
  intro c hc
  exact Option.isNone_iff_eq_none.mp (List.all_eq_true.mp hall c hc)

theorem ne_of_digitValue? {c mark : Char} {d : Nat} (h : Text.digitValue? c = some d)
    (hmark : mark ∈ marks) : c ≠ mark := by
  rintro rfl
  exact absurd (h.symm.trans (digitValue?_of_mem_marks c hmark)) nofun

/-- What starts with digits starts with no sign. -/
theorem Run.head_ne_sign (h : Run Text.digitValue? cs ds) (hds : ds ≠ []) (rest : List Char) :
    ∀ c ∈ (cs ++ rest).head?, c ≠ '-' ∧ c ≠ '+' := by
  intro c hc
  cases h with
  | nil => exact absurd rfl hds
  | cons hdigit _ =>
    obtain rfl := Option.some.inj hc
    exact ⟨ne_of_digitValue? hdigit (by decide), ne_of_digitValue? hdigit (by decide)⟩

/-! ## Exponents, places and decimals -/

theorem exponent?_eq_some_iff : exponent? s = some x ↔ Exponent s x := by
  constructor
  · intro h
    cases s with
    | nil =>
      obtain rfl : 0 = x := Option.some.inj h
      exact .none
    | cons c s =>
      rw [exponent?] at h
      split_ifs at h with hletter
      obtain ⟨before, hs, hsign⟩ := sign_eq s
      obtain ⟨cs, hbody, hrun, -⟩ := digits_eq (sign s).2
      dsimp only at h
      split at h
      · exact nomatch h
      · next ds hds hdigits =>
        rw [hdigits] at hbody hrun
        rw [hs, hbody, List.append_nil, ← Option.some.inj h]
        exact .given hletter hsign hds hrun
      · exact nomatch h
  · intro h
    cases h with
    | none => rfl
    | @given letter before cs negative ds hletter hsign hds hrun =>
      have hbody : sign (before ++ cs) = (negative, cs) :=
        sign_append hsign (by simpa using hrun.head_ne_sign hds [])
      have hdigits : digits cs = (ds, []) := by
        simpa using digits_append hrun [] nofun
      rw [exponent?, if_pos hletter, hbody]
      dsimp only
      rw [hdigits]
      cases ds with
      | nil => exact absurd rfl hds
      | cons d ds => rfl

/-- An exponent starts with a letter that decimals have nowhere else. -/
theorem Exponent.head (h : Exponent s x) :
    ∀ c ∈ s.head?, Text.digitValue? c = .none ∧ c ≠ '.' := by
  intro c hc
  cases h with
  | none => exact nomatch hc
  | given hletter _ _ _ =>
    obtain rfl := Option.some.inj hc
    rcases hletter with rfl | rfl <;> exact ⟨by decide, by decide⟩

theorem places?_eq_some {after : List Char} (h : places? s = some (ds, fs, after)) :
    ∃ cs, s = cs ++ after ∧ Places cs ds fs := by
  obtain ⟨cs, hs, hrun, -⟩ := digits_eq s
  unfold places? at h
  split at h
  · -- No whole digits, so there are places.
    next rest hdigits =>
    obtain ⟨es, hrest, hplaces, -⟩ := digits_eq rest
    split at h
    · exact nomatch h
    · next fraction rest' hfraction hread =>
      obtain ⟨rfl, rfl, rfl⟩ : [] = ds ∧ fraction = fs ∧ rest' = after := by simpa using h
      rw [hdigits] at hs hrun
      rw [hread] at hrest hplaces
      cases hrun
      exact ⟨'.' :: es, by rw [hs, hrest]; rfl, .fraction hfraction hplaces⟩
  · exact nomatch h
  · next whole rest hwhole hdigits =>
    obtain ⟨es, hrest, hplaces, -⟩ := digits_eq rest
    have hread : (whole, (digits rest).1, (digits rest).2) = (ds, fs, after) := Option.some.inj h
    obtain ⟨hds, hpair⟩ := Prod.mk.inj hread
    obtain ⟨hfs, hafter⟩ := Prod.mk.inj hpair
    subst hds hfs hafter
    rw [hdigits] at hs hrun
    exact ⟨cs ++ '.' :: es, by rw [hs, List.append_assoc, List.cons_append, ← hrest],
      .pointed hwhole hrun hplaces⟩
  · next whole rest _ hwhole _ hdigits =>
    obtain ⟨rfl, rfl, rfl⟩ : whole = ds ∧ [] = fs ∧ rest = after := by simpa using h
    rw [hdigits] at hs hrun
    exact ⟨cs, hs, .whole hwhole hrun⟩

theorem places?_append (h : Places cs ds fs)
    (hrest : ∀ c ∈ rest.head?, Text.digitValue? c = none ∧ c ≠ '.') :
    places? (cs ++ rest) = some (ds, fs, rest) := by
  have hend : ∀ c ∈ rest.head?, Text.digitValue? c = none := fun c hc => (hrest c hc).1
  have hpoint : Text.digitValue? '.' = none := by decide
  unfold places?
  cases h with
  | whole hds hrun =>
    rw [digits_append hrun rest hend]
    cases ds with
    | nil => exact absurd rfl hds
    | cons d ds =>
      cases rest with
      | nil => rfl
      | cons c rest =>
        have hc : c ≠ '.' := (hrest c rfl).2
        simp [hc]
  | @pointed cs es ds fs hds hrun hplaces =>
    rw [List.append_assoc, List.cons_append,
      digits_append hrun ('.' :: (es ++ rest)) (by simpa using hpoint)]
    cases ds with
    | nil => exact absurd rfl hds
    | cons d ds => simp [digits_append hplaces rest hend]
  | @fraction es fs hfs hplaces =>
    have hnone : digits ('.' :: (es ++ rest)) = ([], '.' :: (es ++ rest)) :=
      digits_append .nil ('.' :: (es ++ rest)) (by simpa using hpoint)
    rw [List.cons_append, hnone]
    cases fs with
    | nil => exact absurd rfl hfs
    | cons f fs => simp only [digits_append hplaces rest hend]

/-- What starts with places starts with no sign. -/
theorem Places.head_ne_sign (h : Places cs ds fs) (rest : List Char) :
    ∀ c ∈ (cs ++ rest).head?, c ≠ '-' ∧ c ≠ '+' := by
  cases h with
  | whole hds hrun => exact hrun.head_ne_sign hds rest
  | pointed hds hrun _ =>
    rw [List.append_assoc]
    exact hrun.head_ne_sign hds _
  | fraction _ _ =>
    intro c hc
    obtain rfl := Option.some.inj hc
    exact ⟨by decide, by decide⟩

theorem decimal?_eq_some_iff {d : Decimal} : decimal? s = some d ↔ SpellsDecimal s d := by
  constructor
  · intro h
    have hbind : ((places? (sign s).2).bind fun p => (exponent? p.2.2).bind fun x =>
        some ⟨(sign s).1, Text.ofDigits 10 (p.1 ++ p.2.1), x - (p.2.1.length : Int)⟩) = some d := h
    obtain ⟨⟨ds, fs, after⟩, hread, h⟩ := Option.bind_eq_some_iff.mp hbind
    obtain ⟨x, hx, h⟩ := Option.bind_eq_some_iff.mp h
    obtain ⟨before, hs, hsign⟩ := sign_eq s
    obtain ⟨cs, hbody, hplaces⟩ := places?_eq_some hread
    rw [hs, hbody, ← Option.some.inj h]
    exact .mk hsign hplaces (exponent?_eq_some_iff.mp hx)
  · intro h
    cases h with
    | @mk before cs after negative ds fs x hsign hplaces hexponent =>
      have hbody : sign (before ++ (cs ++ after)) = (negative, cs ++ after) :=
        sign_append hsign (hplaces.head_ne_sign after)
      unfold decimal?
      rw [hbody]
      dsimp only
      rw [places?_append hplaces hexponent.head]
      show ((exponent? after).bind fun x => some (Decimal.mk negative _ (x - _))) = _
      rw [exponent?_eq_some_iff.mpr hexponent]
      rfl

/-! ## All numerals -/

theorem radixInteger?_eq_some_iff {n : Nat} :
    radixInteger? s = some n ↔
      ∃ letter base cs ds, s = '0' :: letter :: cs ∧ radix? letter = some base ∧ ds ≠ [] ∧
        Run (Text.radixDigit? base) cs ds ∧ n = Text.ofDigits base ds := by
  constructor
  · intro h
    unfold radixInteger? at h
    split at h
    · next c d rest =>
      obtain ⟨base, hbase, h⟩ := Option.bind_eq_some_iff.mp h
      obtain ⟨ds, hds, h⟩ := Option.bind_eq_some_iff.mp h
      have hrun := run_iff_mapM.mp hds
      refine ⟨c, base, d :: rest, ds, rfl, hbase, ?_, hrun, (Option.some.inj h).symm⟩
      rintro rfl
      exact nomatch hrun
    · exact nomatch h
  · rintro ⟨letter, base, cs, ds, rfl, hletter, hds, hrun, rfl⟩
    obtain ⟨d, rest, rfl⟩ := List.exists_cons_of_ne_nil (hrun.ne_nil hds)
    rw [radixInteger?, hletter]
    show (List.mapM (Text.radixDigit? base) (d :: rest)).bind _ = _
    rw [run_iff_mapM.mpr hrun]
    rfl

theorem infinity?_eq_some_iff {d : Double} :
    infinity? s = some d ↔
      ∃ before negative, s = before ++ "Infinity".toList ∧ Sign before negative ∧
        d = .infinity negative := by
  constructor
  · intro h
    unfold infinity? at h
    split_ifs at h with hplus hminus
    · obtain rfl := Option.some.inj h
      rcases hplus with rfl | rfl
      · exact ⟨[], false, rfl, .none, rfl⟩
      · exact ⟨['+'], false, rfl, .plus, rfl⟩
    · obtain rfl := Option.some.inj h
      obtain rfl := hminus
      exact ⟨['-'], true, rfl, .minus, rfl⟩
  · rintro ⟨before, negative, rfl, hsign, rfl⟩
    cases hsign <;> rfl

/-- The letter that announces a base tells such numerals from all others. -/
theorem not_radix {letter : Char} {base : Nat} (hletter : radix? letter = some base)
    (cs : List Char) :
    infinity? ('0' :: letter :: cs) = none ∧ decimal? ('0' :: letter :: cs) = none := by
  have hmark : letter ∈ marks ∧ letter ≠ '.' ∧ ¬ (letter = 'e' ∨ letter = 'E') := by
    unfold radix? at hletter
    split_ifs at hletter with hx ho hb
    · rcases hx with rfl | rfl <;> decide
    · rcases ho with rfl | rfl <;> decide
    · rcases hb with rfl | rfl <;> decide
  obtain ⟨hletter, hpoint, hexponent⟩ := hmark
  have hdigit := digitValue?_of_mem_marks letter hletter
  constructor
  · simp [infinity?]
  · -- The zero is read as all of the places, and what follows is no exponent.
    have hzero : Places ['0'] [0] [] := .whole (by simp) (.cons rfl .nil)
    have hplaces : places? ('0' :: letter :: cs) = some ([0], [], letter :: cs) := by
      refine places?_append hzero fun c hc => ?_
      obtain rfl := Option.some.inj hc
      exact ⟨hdigit, hpoint⟩
    have hnone : exponent? (letter :: cs) = none := by rw [exponent?, if_neg hexponent]
    show ((places? ('0' :: letter :: cs)).bind fun p => (exponent? p.2.2).bind _) = none
    rw [hplaces]
    show (exponent? (letter :: cs)).bind _ = none
    rw [hnone]
    rfl

theorem decimal?_of_infinity? {d : Double} (h : infinity? s = some d) : decimal? s = none := by
  obtain ⟨before, negative, rfl, hsign, -⟩ := infinity?_eq_some_iff.mp h
  cases hsign <;> decide

/-- The grammar, way by way. -/
theorem spells_iff {n : Number} :
    Spells s n ↔ (∃ m : Nat, radixInteger? s = some m ∧ .int m = n) ∨
      (∃ d, infinity? s = some d ∧ .double d = n) ∨
      ∃ d, decimal? s = some d ∧ ofDouble d.toDouble = n := by
  constructor
  · intro h
    cases h with
    | radix hletter hds hrun =>
      exact .inl ⟨_, radixInteger?_eq_some_iff.mpr ⟨_, _, _, _, rfl, hletter, hds, hrun, rfl⟩, rfl⟩
    | infinity hsign =>
      exact .inr (.inl ⟨_, infinity?_eq_some_iff.mpr ⟨_, _, rfl, hsign, rfl⟩, rfl⟩)
    | decimal hdecimal => exact .inr (.inr ⟨_, decimal?_eq_some_iff.mpr hdecimal, rfl⟩)
  · rintro (⟨m, h, rfl⟩ | ⟨d, h, rfl⟩ | ⟨d, h, rfl⟩)
    · obtain ⟨letter, base, cs, ds, rfl, hletter, hds, hrun, rfl⟩ := radixInteger?_eq_some_iff.mp h
      exact .radix hletter hds hrun
    · obtain ⟨before, negative, rfl, hsign, rfl⟩ := infinity?_eq_some_iff.mp h
      exact .infinity hsign
    · exact .decimal (decimal?_eq_some_iff.mp h)

/-- **What the reader of literals reads.** Zero if the text is blank, and otherwise the number that
the text without the blanks around it spells, if it spells one. -/
theorem number?_eq_some_iff {text : List Char} {n : Number} :
    number? text = some n ↔
      (Text.trim text = [] ∧ n = .int 0) ∨ Spells (Text.trim text) n := by
  rw [spells_iff]
  unfold number?
  dsimp only
  generalize Text.trim text = s
  cases s with
  | nil =>
    have hradix : radixInteger? [] = none := rfl
    have hinfinity : infinity? [] = none := by decide
    have hdecimal : decimal? [] = none := by decide
    simp [hradix, hinfinity, hdecimal, eq_comm]
  | cons c s =>
    cases hradix : radixInteger? (c :: s) with
    | some m =>
      obtain ⟨letter, base, cs, ds, hs, hletter, -⟩ := radixInteger?_eq_some_iff.mp hradix
      rw [hs]
      simp [not_radix hletter cs]
    | none =>
      cases hinfinity : infinity? (c :: s) with
      | some d => simp [decimal?_of_infinity? hinfinity]
      | none => simp

end Parts

end Rulebook.Numeral
