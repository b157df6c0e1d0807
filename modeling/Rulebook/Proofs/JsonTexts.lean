import Rulebook.Json.Reader
import Rulebook.Proofs.Escapes

/-!
# Lists of texts in JSON

The grammar of JSON for a list of texts, and the reader on what it derives. In a string most
characters stand for themselves. Some have a letter of their own behind a backslash, and all can be
written by their code units, those beyond U+FFFF as the two halves of a pair. The reader takes such
a list as what it was written for, however it was written (`Json.read_eq_of_spellsTexts`), and there
is a way to write every list (`Json.spellsTexts_written`).
-/

set_option autoImplicit false

namespace Rulebook.Json

open Text (HexDigit)

/-! ## The grammar -/

/-- The letters behind a backslash, with what they stand for. -/
def escapeLetters : List (Char × Char) :=
  [('"', '"'), ('\\', '\\'), ('/', '/'), ('b', '\x08'), ('f', '\x0c'), ('n', '\n'), ('r', '\r'),
   ('t', '\t')]

/-- A code unit in four hexadecimal digits. -/
inductive CodeUnit : List Char → Nat → Prop
  | digits {a b c d : Char} {v w x y : Nat} :
    HexDigit a v → HexDigit b w → HexDigit c x → HexDigit d y →
      CodeUnit [a, b, c, d] (v * 4096 + w * 256 + x * 16 + y)

/-- The ways to write a character in a string. -/
inductive SpellsChar : List Char → Char → Prop
  | plain {c : Char} : c ≠ '"' → c ≠ '\\' → 0x20 ≤ c.toNat → SpellsChar [c] c
  | letter {e c : Char} : (e, c) ∈ escapeLetters → SpellsChar ['\\', e] c
  | unit {ds : List Char} {c : Char} : CodeUnit ds c.toNat → SpellsChar ('\\' :: 'u' :: ds) c
  | pair {ds es : List Char} {high low : Nat} {c : Char} :
    CodeUnit ds (0xD800 + high) → CodeUnit es (0xDC00 + low) → high < 0x400 → low < 0x400 →
      c.toNat = 0x10000 + high * 0x400 + low →
        SpellsChar ('\\' :: 'u' :: (ds ++ '\\' :: 'u' :: es)) c

/-- The ways to write characters in a string. -/
inductive SpellsChars : List Char → List Char → Prop
  | nil : SpellsChars [] []
  | cons {s t cs : List Char} {c : Char} :
    SpellsChar s c → SpellsChars t cs → SpellsChars (s ++ t) (c :: cs)

/-- Space between the parts of a JSON text. -/
def IsSpacing (s : List Char) : Prop :=
  ∀ c ∈ s, c = ' ' ∨ c = '\t' ∨ c = '\n' ∨ c = '\r'

/-- The ways to write a text as an item, with space around it. -/
inductive SpellsItem : List Char → String → Prop
  | quoted {before s after : List Char} {text : String} :
    IsSpacing before → SpellsChars s text.toList → IsSpacing after →
      SpellsItem (before ++ '"' :: (s ++ '"' :: after)) text

/-- The ways to write texts as items, of which there is at least one, with commas between them. -/
inductive SpellsItems : List Char → List String → Prop
  | one {s : List Char} {text : String} : SpellsItem s text → SpellsItems s [text]
  | cons {s rest : List Char} {text : String} {texts : List String} :
    SpellsItem s text → SpellsItems rest texts → SpellsItems (s ++ ',' :: rest) (text :: texts)

/-- The ways to write a list of texts, with no space outside its brackets. -/
inductive SpellsTexts : List Char → List String → Prop
  | empty {s : List Char} : IsSpacing s → SpellsTexts ('[' :: (s ++ [']'])) []
  | items {s : List Char} {texts : List String} :
    SpellsItems s texts → SpellsTexts ('[' :: (s ++ [']'])) texts

/-! ## Reading strings -/

theorem CodeUnit.length_eq {ds : List Char} {n : Nat} (h : CodeUnit ds n) : ds.length = 4 := by
  cases h with
  | digits => rfl

theorem fourHex?_append {ds rest : List Char} {n : Nat} (h : CodeUnit ds n) (hrest : rest ≠ []) :
    fourHex? (ds ++ rest) = some (n, rest) := by
  obtain ⟨r, rest, rfl⟩ := List.exists_cons_of_ne_nil hrest
  cases h with
  | @digits a b c d v w x y ha hb hc hd =>
    have hvalue : Text.ofDigits 16 [v, w, x, y] = v * 4096 + w * 256 + x * 16 + y := by
      simp only [Text.ofDigits, List.foldl_cons, List.foldl_nil]
      omega
    simp [fourHex?, Text.radixDigit?_of_hexDigit ha, Text.radixDigit?_of_hexDigit hb,
      Text.radixDigit?_of_hexDigit hc, Text.radixDigit?_of_hexDigit hd, hvalue]

theorem codeChar_toNat (c : Char) : codeChar c.toNat = c := by
  have hvalid : c.toNat.isValidChar := c.valid
  rw [codeChar, if_pos hvalid, Char.ofNat_toNat]

theorem simpleEscape?_of_mem {e c : Char} (h : (e, c) ∈ escapeLetters) :
    e ≠ 'u' ∧ simpleEscape? e = some c := by
  have hall : ∀ p ∈ escapeLetters, p.1 ≠ 'u' ∧ simpleEscape? p.1 = some p.2 := by decide
  exact hall (e, c) h

/-- A character in front of a part that was read. -/
def prepend (c : Char) (x : Except Failure (Part (List Char))) :
    Except Failure (Part (List Char)) :=
  x.map fun p => (c :: p.1, p.2)

theorem bind_prepend (c : Char) (x : Except Failure (Part (List Char))) :
    (x >>= fun p => match p with | (cs, pos, left) => pure (c :: cs, pos, left)) = prepend c x := by
  cases x with
  | error e => rfl
  | ok p => rfl

/-- **A character is read from every way to write it.** -/
theorem stringBody_append {s rest : List Char} {c : Char} (h : SpellsChar s c) (hrest : rest ≠ [])
    (opened fuel pos : Nat) :
    stringBody opened (fuel + 1) pos (s ++ rest) =
      prepend c (stringBody opened fuel (pos + s.length) rest) := by
  cases h with
  | plain hquote hbackslash hcontrol =>
    rw [List.singleton_append, stringBody.eq_def]
    dsimp only
    rw [if_neg hquote, if_neg hbackslash, if_neg (Nat.not_lt.mpr hcontrol)]
    exact bind_prepend c _
  | @letter e c h =>
    obtain ⟨hletter, hescape⟩ := simpleEscape?_of_mem h
    rw [List.cons_append, List.singleton_append, stringBody.eq_def]
    simp only [Char.reduceEq, reduceIte, hescape]
    exact bind_prepend c _
  | @unit ds c h =>
    have hlength : ('\\' :: 'u' :: ds).length = 6 := congrArg (· + 2) h.length_eq
    have hhex := fourHex?_append h hrest
    -- No character is a half of a pair, so what follows is not looked at.
    have hhalf : isHighHalf c.toNat = false := by
      have hvalid := Text.toNat_valid c
      simp only [isHighHalf, Bool.and_eq_false_iff, decide_eq_false_iff_not]
      omega
    rw [hlength, List.cons_append, List.cons_append, stringBody.eq_def]
    simp only [Char.reduceEq, reduceIte, hhex, hhalf, codeChar_toNat]
    exact bind_prepend c _
  | @pair ds es high low c hds hes hhigh hlow hc =>
    have hlength : ('\\' :: 'u' :: (ds ++ '\\' :: 'u' :: es)).length = 12 := by
      simp [hds.length_eq, hes.length_eq]
    have hfirst : fourHex? (ds ++ '\\' :: 'u' :: (es ++ rest)) =
        some (0xD800 + high, '\\' :: 'u' :: (es ++ rest)) := fourHex?_append hds (by simp)
    have hsecond := fourHex?_append hes hrest
    have hhighhalf : isHighHalf (0xD800 + high) = true := by
      simp only [isHighHalf, Bool.and_eq_true, decide_eq_true_eq]
      omega
    have hlowhalf : isLowHalf (0xDC00 + low) = true := by
      simp only [isLowHalf, Bool.and_eq_true, decide_eq_true_eq]
      omega
    have hjoined : 0x10000 + (0xD800 + high - 0xD800) * 0x400 + (0xDC00 + low - 0xDC00) =
        c.toNat := by
      omega
    rw [hlength, List.cons_append, List.cons_append, List.append_assoc, List.cons_append,
      List.cons_append, stringBody.eq_def]
    simp only [Char.reduceEq, reduceIte, hfirst, hsecond, hhighhalf, hlowhalf, hjoined,
      codeChar_toNat]
    exact bind_prepend c _

theorem SpellsChar.length_pos {s : List Char} {c : Char} (h : SpellsChar s c) : 0 < s.length := by
  cases h with
  | plain => exact Nat.one_pos
  | letter => exact Nat.two_pos
  | unit => exact Nat.succ_pos _
  | pair => exact Nat.succ_pos _

theorem SpellsChars.length_le {s cs : List Char} (h : SpellsChars s cs) : cs.length ≤ s.length := by
  induction h with
  | nil => exact Nat.le_refl 0
  | cons hc _ ih =>
    have := hc.length_pos
    rw [List.length_append, List.length_cons]
    omega

theorem stringBody_eq {s cs : List Char} (h : SpellsChars s cs) (rest : List Char)
    (opened : Nat) {fuel : Nat} (hfuel : cs.length < fuel) (pos : Nat) :
    stringBody opened fuel pos (s ++ '"' :: rest) = .ok (cs, pos + s.length + 1, rest) := by
  induction h generalizing fuel pos with
  | nil =>
    obtain ⟨fuel, rfl⟩ := Nat.exists_eq_add_one_of_ne_zero (Nat.ne_of_gt hfuel)
    rfl
  | @cons s t cs c hc _ ih =>
    obtain ⟨fuel, rfl⟩ := Nat.exists_eq_add_one_of_ne_zero (Nat.ne_zero_of_lt hfuel)
    rw [List.append_assoc, stringBody_append hc (by simp),
      ih (Nat.lt_of_succ_lt_succ hfuel), List.length_append, ← Nat.add_assoc pos]
    rfl

/-- A text is read from every way to write it. -/
theorem string_eq {s : List Char} {text : String} (h : SpellsChars s text.toList)
    (rest : List Char) (opened : Nat) :
    string opened (s ++ '"' :: rest) = .ok (text, opened + 1 + s.length + 1, rest) := by
  have hfuel : text.toList.length < (s ++ '"' :: rest).length + 1 := by
    have := h.length_le
    rw [List.length_append]
    omega
  rw [string, stringBody_eq h rest opened hfuel]
  change Except.ok (String.ofList text.toList, _, _) = _
  rw [String.ofList_toList]

/-! ## Reading lists -/

theorem skipSpace_append {s : List Char} (h : IsSpacing s) {c : Char} (hc : isSpace c = false)
    (rest : List Char) (pos : Nat) :
    skipSpace pos (s ++ c :: rest) = (pos + s.length, c :: rest) := by
  induction s generalizing pos with
  | nil => simp [skipSpace, hc]
  | cons d s ih =>
    have hd : isSpace d = true := by
      rcases h d List.mem_cons_self with rfl | rfl | rfl | rfl <;> rfl
    rw [List.cons_append, skipSpace, if_pos hd, ih fun e he => h e (List.mem_cons_of_mem d he),
      List.length_cons, Nat.add_right_comm, Nat.add_assoc]

theorem value_eq {s : List Char} {text : String} (h : SpellsChars s text.toList)
    (rest : List Char) (fuel pos : Nat) :
    value (fuel + 1) pos ('"' :: (s ++ '"' :: rest)) =
      .ok (.text text, pos + 1 + s.length + 1, rest) := by
  rw [value.eq_def]
  dsimp only
  rw [if_pos rfl, string_eq h]
  rfl

/-- An item is read with the space around it, up to what follows. -/
theorem value_of_spellsItem {s : List Char} {text : String} (h : SpellsItem s text) {c : Char}
    (hc : isSpace c = false) (rest : List Char) (fuel pos : Nat) :
    ∃ start t stop left after, skipSpace pos (s ++ c :: rest) = (start, '"' :: t) ∧
      value (fuel + 1) start ('"' :: t) = .ok (.text text, stop, left) ∧
        skipSpace stop left = (after, c :: rest) := by
  cases h with
  | @quoted before s after text hbefore hs hafter =>
    rw [List.append_assoc, List.cons_append, List.append_assoc, List.cons_append]
    exact ⟨_, _, _, _, _, skipSpace_append hbefore rfl _ pos, value_eq hs _ fuel _,
      skipSpace_append hafter hc rest _⟩

section Items

variable {fuel pos stop after : Nat} {s left rest : List Char} {v : Value}

theorem items_last (hvalue : value fuel pos s = .ok (v, stop, left))
    (hend : skipSpace stop left = (after, ']' :: rest)) :
    items (fuel + 1) pos s = .ok ([v], after + 1, rest) := by
  rw [items.eq_def]
  simp only [hvalue, bind, Except.bind, hend]
  rfl

theorem items_more (hvalue : value fuel pos s = .ok (v, stop, left))
    (hend : skipSpace stop left = (after, ',' :: rest)) {next last : Nat} {t tail : List Char}
    {vs : List Value} (hnext : skipSpace (after + 1) rest = (next, t))
    (hitems : items fuel next t = .ok (vs, last, tail)) :
    items (fuel + 1) pos s = .ok (v :: vs, last, tail) := by
  rw [items.eq_def]
  simp only [hvalue, bind, Except.bind, hend, hnext, hitems]
  rfl

end Items

theorem items_of_spellsItems {s : List Char} {texts : List String} (h : SpellsItems s texts)
    (rest : List Char) {fuel : Nat} (hfuel : texts.length < fuel) (pos : Nat) :
    ∃ start t after, skipSpace pos (s ++ ']' :: rest) = (start, '"' :: t) ∧
      items fuel start ('"' :: t) = .ok (texts.map .text, after, rest) := by
  induction h generalizing fuel pos with
  | @one s text h =>
    obtain ⟨fuel, rfl⟩ : ∃ n, fuel = n + 2 := ⟨fuel - 2, by simp at hfuel; omega⟩
    have hbracket : isSpace ']' = false := rfl
    obtain ⟨start, t, stop, left, after, hskip, hvalue, hend⟩ :=
      value_of_spellsItem h hbracket rest fuel pos
    exact ⟨start, t, after + 1, hskip, items_last hvalue hend⟩
  | @cons s others text texts h _ ih =>
    obtain ⟨fuel, rfl⟩ : ∃ n, fuel = n + 2 := ⟨fuel - 2, by simp at hfuel; omega⟩
    have hcomma : isSpace ',' = false := rfl
    obtain ⟨start, t, stop, left, after, hskip, hvalue, hend⟩ :=
      value_of_spellsItem h hcomma (others ++ ']' :: rest) fuel pos
    obtain ⟨next, t', last, hnext, hitems⟩ := ih (Nat.lt_of_succ_lt_succ hfuel) (after + 1)
    rw [List.append_assoc, List.cons_append]
    exact ⟨start, t, last, hskip, items_more hvalue hend hnext hitems⟩

theorem SpellsItems.length_le {s : List Char} {texts : List String} (h : SpellsItems s texts) :
    texts.length ≤ s.length := by
  have hitem : ∀ {s : List Char} {text : String}, SpellsItem s text → 0 < s.length := by
    intro s text h
    cases h with
    | quoted => simp only [List.length_append, List.length_cons]; omega
  induction h with
  | one h => exact hitem h
  | cons h _ ih =>
    rw [List.length_append, List.length_cons, List.length_cons]
    omega

theorem SpellsTexts.brackets {s : List Char} {texts : List String} (h : SpellsTexts s texts) :
    ∃ inner, s = '[' :: (inner ++ [']']) := by
  cases h with
  | empty => exact ⟨_, rfl⟩
  | items => exact ⟨_, rfl⟩

/-- A list is read without space around it. -/
theorem value_of_spellsTexts {s : List Char} {texts : List String} (h : SpellsTexts s texts)
    {fuel : Nat} (hfuel : s.length ≤ fuel) :
    ∃ after, value (fuel + 1) 0 s = .ok (.list (texts.map .text), after, []) := by
  cases h with
  | @empty s hs =>
    have hbracket : isSpace ']' = false := rfl
    refine ⟨1 + s.length + 1, ?_⟩
    rw [value.eq_def]
    simp only [Char.reduceEq, reduceIte, skipSpace_append hs hbracket, Nat.zero_add]
    rfl
  | @items s texts h =>
    have hlength : texts.length < fuel := by
      have := h.length_le
      simp only [List.length_cons, List.length_append] at hfuel
      omega
    obtain ⟨start, t, after, hskip, hitems⟩ := items_of_spellsItems h [] hlength 1
    refine ⟨after, ?_⟩
    rw [value.eq_def]
    simp only [Char.reduceEq, reduceIte, Nat.zero_add, hskip, hitems]
    rfl

/-- **A list of texts is read from every way to write it.** -/
theorem read_eq_of_spellsTexts {text : String} {texts : List String}
    (h : SpellsTexts text.toList texts) : read text = .ok (.list (texts.map .text)) := by
  have hstart : skipSpace 0 text.toList = (0, text.toList) := by
    obtain ⟨inner, hs⟩ := h.brackets
    rw [hs]
    rfl
  have hfuel : text.toList.length ≤ 2 * text.toList.length + 1 := by
    omega
  obtain ⟨after, hvalue⟩ := value_of_spellsTexts h hfuel
  unfold read
  simp only [hstart, hvalue]
  rfl

/-! ## Writing lists -/

/-- A number below sixteen as a digit. -/
def hexLetter (n : Nat) : Char :=
  ("0123456789abcdef".toList[n]?).getD '0'

/-- A code unit in digits. -/
def unitDigits (n : Nat) : List Char :=
  [hexLetter (n / 4096 % 16), hexLetter (n / 256 % 16), hexLetter (n / 16 % 16), hexLetter (n % 16)]

/-- A character by its code units. -/
def writtenUnits (c : Char) : List Char :=
  if c.toNat < 0x10000 then '\\' :: 'u' :: unitDigits c.toNat
  else
    let beyond := c.toNat - 0x10000
    '\\' :: 'u' :: (unitDigits (0xD800 + beyond / 0x400) ++
      '\\' :: 'u' :: unitDigits (0xDC00 + beyond % 0x400))

/-- A character as it is written in a string: with its letter if it has to have one, as it is if it
is an ASCII character, and by its code units otherwise. -/
def writtenChar (c : Char) : List Char :=
  match escapeLetters.find? fun p => p.2 == c && c != '/' with
  | some p => ['\\', p.1]
  | none => if 0x20 ≤ c.toNat && c.toNat < 0x7F then [c] else writtenUnits c

/-- A string with its quotes. -/
def writtenString (text : String) : List Char :=
  '"' :: (text.toList.flatMap writtenChar ++ ['"'])

/-- Texts with a comma and a space between them. -/
def writtenItems : List String → List Char
  | [] => []
  | [text] => writtenString text
  | text :: texts => writtenString text ++ ',' :: ' ' :: writtenItems texts

/-- A list of texts in JSON. -/
def written (texts : List String) : List Char :=
  '[' :: (writtenItems texts ++ [']'])

theorem codeUnit_unitDigits {n : Nat} (h : n < 0x10000) : CodeUnit (unitDigits n) n := by
  have hdigit : ∀ v < 16, HexDigit (hexLetter v) v := by decide
  have hvalue : n = n / 4096 % 16 * 4096 + n / 256 % 16 * 256 + n / 16 % 16 * 16 + n % 16 := by
    omega
  have hunit := CodeUnit.digits (hdigit (n / 4096 % 16) (Nat.mod_lt _ (by decide)))
    (hdigit (n / 256 % 16) (Nat.mod_lt _ (by decide)))
    (hdigit (n / 16 % 16) (Nat.mod_lt _ (by decide))) (hdigit (n % 16) (Nat.mod_lt _ (by decide)))
  rwa [← hvalue] at hunit

theorem spellsChar_writtenUnits (c : Char) : SpellsChar (writtenUnits c) c := by
  have hvalid := Text.toNat_valid c
  unfold writtenUnits
  split
  · next hsmall => exact .unit (codeUnit_unitDigits hsmall)
  · next hlarge =>
    apply SpellsChar.pair
    · exact codeUnit_unitDigits (by omega)
    · exact codeUnit_unitDigits (by omega)
    · omega
    · omega
    · omega

theorem spellsChar_writtenChar (c : Char) : SpellsChar (writtenChar c) c := by
  unfold writtenChar
  split
  · next p hfound =>
    have hsame := List.find?_some hfound
    simp only [Bool.and_eq_true, beq_iff_eq] at hsame
    apply SpellsChar.letter
    rw [← hsame.1]
    exact List.mem_of_find?_eq_some hfound
  · next hnone =>
    rw [List.find?_eq_none] at hnone
    split
    · next hplain =>
      simp only [Bool.and_eq_true, decide_eq_true_eq] at hplain
      apply SpellsChar.plain _ _ hplain.1
      · rintro rfl
        exact absurd rfl (hnone ('"', '"') (by decide))
      · rintro rfl
        exact absurd rfl (hnone ('\\', '\\') (by decide))
    · exact spellsChar_writtenUnits c

theorem spellsItem_writtenString {before : List Char} (h : IsSpacing before) (text : String) :
    SpellsItem (before ++ writtenString text) text := by
  have hchars : SpellsChars (text.toList.flatMap writtenChar) text.toList := by
    induction text.toList with
    | nil => exact .nil
    | cons c cs ih => exact .cons (spellsChar_writtenChar c) ih
  apply SpellsItem.quoted h hchars
  intro c hc
  exact absurd hc List.not_mem_nil

theorem spellsItems_writtenItems (text : String) (texts : List String) {before : List Char}
    (h : IsSpacing before) :
    SpellsItems (before ++ writtenItems (text :: texts)) (text :: texts) := by
  induction texts generalizing text before with
  | nil => exact .one (spellsItem_writtenString h text)
  | cons other texts ih =>
    -- The space after the comma belongs to the next item.
    have hspace : IsSpacing [' '] := by
      simp [IsSpacing]
    have hrest := ih other hspace
    have hwhole := SpellsItems.cons (spellsItem_writtenString h text) hrest
    rwa [List.append_assoc] at hwhole

/-- **Every list of texts can be written.** -/
theorem spellsTexts_written (texts : List String) : SpellsTexts (written texts) texts := by
  have hnothing : IsSpacing [] := by
    simp [IsSpacing]
  cases texts with
  | nil => exact .empty hnothing
  | cons text texts => exact .items (spellsItems_writtenItems text texts hnothing)

end Rulebook.Json
