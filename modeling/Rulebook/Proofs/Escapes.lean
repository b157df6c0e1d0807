import Mathlib.Tactic.SplitIfs
import Mathlib.Tactic.Cases
import Rulebook.Text.Percent

/-!
# Escapes in addresses

Resolving percent escapes puts the characters of a text back together from their bytes. A character
that is written as it is comes out as it is (`Text.decodeBytes_utf8Bytes`), and every escape makes
the text shorter (`Text.length_decodeBytes`). So exactly the texts without an escape are the same
after resolving (`Text.percentDecoded_eq_self_iff`).
-/

set_option autoImplicit false

namespace Rulebook.Text

/-! ## Hexadecimal digits and escapes -/

/-- A digit in base sixteen with its value, in lower or in upper case. -/
def HexDigit (c : Char) (v : Nat) : Prop :=
  "0123456789abcdef".toList[v]? = some c ∨ "0123456789ABCDEF".toList[v]? = some c

instance (c : Char) (v : Nat) : Decidable (HexDigit c v) :=
  inferInstanceAs (Decidable (_ ∨ _))

theorem HexDigit.lt {c : Char} {v : Nat} (h : HexDigit c v) : v < 16 := by
  rcases h with h | h
  · exact (List.getElem?_eq_some_iff.mp h).1
  · exact (List.getElem?_eq_some_iff.mp h).1

theorem radixDigit?_of_hexDigit {c : Char} {v : Nat} (h : HexDigit c v) :
    radixDigit? 16 c = some v := by
  have hdigits : ∀ v < 16, "0123456789abcdef".toList[v]?.bind (radixDigit? 16) = some v := by
    decide
  have hcapitals : ∀ v < 16, "0123456789ABCDEF".toList[v]?.bind (radixDigit? 16) = some v := by
    decide
  have hv := h.lt
  rcases h with hc | hc
  · have hfound := hdigits v hv
    rwa [hc] at hfound
  · have hfound := hcapitals v hv
    rwa [hc] at hfound

/-- A character between two others is one of those that are counted from the first. -/
theorem exists_ofNat_add {first last c : Char} (h : (first ≤ c && c ≤ last) = true) :
    ∃ k < last.toNat - first.toNat + 1, c = Char.ofNat (first.toNat + k) := by
  simp only [Bool.and_eq_true, decide_eq_true_eq] at h
  have hfirst : first.toNat ≤ c.toNat := h.1
  have hlast : c.toNat ≤ last.toNat := h.2
  refine ⟨c.toNat - first.toNat, by omega, ?_⟩
  rw [show first.toNat + (c.toNat - first.toNat) = c.toNat by omega, Char.ofNat_toNat]

theorem hexDigit_of_radixDigit? {c : Char} {v : Nat} (h : radixDigit? 16 c = some v) :
    HexDigit c v := by
  have hdigits : ∀ k < 10, ∀ v ∈ radixDigit? 16 (Char.ofNat (48 + k)),
      HexDigit (Char.ofNat (48 + k)) v := by decide
  have hsmall : ∀ k < 6, ∀ v ∈ radixDigit? 16 (Char.ofNat (97 + k)),
      HexDigit (Char.ofNat (97 + k)) v := by decide
  have hcapitals : ∀ k < 6, ∀ v ∈ radixDigit? 16 (Char.ofNat (65 + k)),
      HexDigit (Char.ofNat (65 + k)) v := by decide
  by_cases hdigit : ('0' ≤ c && c ≤ '9') = true
  · obtain ⟨k, hk, rfl⟩ := exists_ofNat_add hdigit
    exact hdigits k hk v h
  by_cases hletter : ('a' ≤ c && c ≤ 'f') = true
  · obtain ⟨k, hk, rfl⟩ := exists_ofNat_add hletter
    exact hsmall k hk v h
  by_cases hcapital : ('A' ≤ c && c ≤ 'F') = true
  · obtain ⟨k, hk, rfl⟩ := exists_ofNat_add hcapital
    exact hcapitals k hk v h
  rw [radixDigit?, if_neg hdigit, if_neg hletter, if_neg hcapital] at h
  exact absurd h (by simp)

/-- A text in which an escape stands. -/
inductive HasEscape : List Char → Prop
  | here {a b : Char} {v w : Nat} {rest : List Char} :
    HexDigit a v → HexDigit b w → HasEscape ('%' :: a :: b :: rest)
  | later {c : Char} {rest : List Char} : HasEscape rest → HasEscape (c :: rest)

theorem not_hasEscape {s : List Char} (h : '%' ∉ s) : ¬ HasEscape s := by
  intro hescape
  induction hescape with
  | here => exact h List.mem_cons_self
  | later _ ih => exact ih fun hmem => h (List.mem_cons_of_mem _ hmem)

/-! ## The bytes of a character -/

/-- A character is no half of a pair and not beyond the last code point. -/
theorem toNat_valid (c : Char) : c.toNat < 0xD800 ∨ 0xDFFF < c.toNat ∧ c.toNat < 0x110000 :=
  c.valid

theorem utf8Bytes_eq (c : Char) :
    utf8Bytes c =
      if c.toNat ≤ 0x7F then [c.toNat]
      else if c.toNat ≤ 0x7FF then [c.toNat / 64 + 0xC0, c.toNat % 64 + 0x80]
      else if c.toNat ≤ 0xFFFF then
        [c.toNat / 4096 + 0xE0, c.toNat / 64 % 64 + 0x80, c.toNat % 64 + 0x80]
      else [c.toNat / 262144 + 0xF0, c.toNat / 4096 % 64 + 0x80, c.toNat / 64 % 64 + 0x80,
        c.toNat % 64 + 0x80] := by
  have hvalid := toNat_valid c
  have hval : c.val.toNat = c.toNat := rfl
  unfold utf8Bytes String.utf8EncodeChar
  simp only [hval]
  split_ifs with hone htwo hthree
  all_goals
    simp only [List.map_cons, List.map_nil, UInt8.toNat_ofNat', List.cons.injEq, and_true]
    omega

/-! ## Decoding -/

/-- A character that is under way goes on with a byte that cannot start one. -/
def Fits (pending : Option Begun) : Prop :=
  ∀ p ∈ pending, 0x80 ≤ p.least ∧ p.greatest ≤ 0xBF

theorem fits_none : Fits none := by
  intro p hp
  exact absurd hp (by simp)

/-- What stands for a character that is cut off. -/
def cutOff (pending : Option Begun) : List Char :=
  if pending.isSome then [replacement] else []

theorem ofLead?_fits (b : Nat) : Fits (Begun.ofLead? b) := by
  intro p hp
  unfold Begun.ofLead? at hp
  split_ifs at hp <;> simp only [Option.mem_def, Option.some.injEq, reduceCtorEq] at hp
  all_goals
    subst hp
    simp

theorem takeByte_fits {pending : Option Begun} (h : Fits pending) (b : Nat) :
    Fits (takeByte pending b).2 := by
  have hbegin : Fits (beginByte b).2 := by
    unfold beginByte
    have hlead := ofLead?_fits b
    split_ifs
    · exact fits_none
    · cases hp : Begun.ofLead? b with
      | none => exact fits_none
      | some p => rwa [hp] at hlead
  cases pending with
  | none => exact hbegin
  | some p =>
    unfold takeByte
    dsimp only
    split_ifs
    · exact fits_none
    · intro q hq
      obtain rfl := Option.mem_some_iff.mp hq
      exact ⟨Nat.le_refl _, Nat.le_refl _⟩
    · exact hbegin

/-- A byte that goes on with no character cuts off the one that is under way. -/
theorem decodeBytes_start {pending : Option Begun} (h : Fits pending) {b : Nat}
    (hb : b < 0x80 ∨ 0xC0 ≤ b) (rest : List Nat) :
    decodeBytes pending (b :: rest) = cutOff pending ++ decodeBytes none (b :: rest) := by
  cases pending with
  | none => rfl
  | some p =>
    have hp := h p rfl
    have houtside : ¬ (p.least ≤ b && b ≤ p.greatest) = true := by
      simp only [Bool.and_eq_true, decide_eq_true_eq]
      omega
    have htake : takeByte (some p) b = (replacement :: (beginByte b).1, (beginByte b).2) := by
      rw [takeByte, if_neg houtside]
    rw [decodeBytes, htake]
    rfl

theorem decodeBytes_lead {b : Nat} (hb : 0x80 ≤ b) {p : Begun} (hp : Begun.ofLead? b = some p)
    (rest : List Nat) : decodeBytes none (b :: rest) = decodeBytes (some p) rest := by
  have hlong : ¬ b < 0x80 := by omega
  simp [decodeBytes, takeByte, beginByte, hlong, hp]

theorem decodeBytes_more {missing bits least greatest b : Nat} (hb : least ≤ b ∧ b ≤ greatest)
    (rest : List Nat) :
    decodeBytes (some ⟨missing + 2, bits, least, greatest⟩) (b :: rest) =
      decodeBytes (some ⟨missing + 1, bits * 64 + (b - 0x80), 0x80, 0xBF⟩) rest := by
  simp [decodeBytes, takeByte, hb.1, hb.2]

theorem decodeBytes_last {bits least greatest b : Nat} (hb : least ≤ b ∧ b ≤ greatest)
    (rest : List Nat) :
    decodeBytes (some ⟨1, bits, least, greatest⟩) (b :: rest) =
      Char.ofNat (bits * 64 + (b - 0x80)) :: decodeBytes none rest := by
  simp [decodeBytes, takeByte, hb.1, hb.2]

/-- The first of two bytes announces a character of eleven bits. -/
theorem ofLead?_two {n : Nat} (h : 0x7F < n) (hn : n ≤ 0x7FF) :
    Begun.ofLead? (n / 64 + 0xC0) = some ⟨1, n / 64, 0x80, 0xBF⟩ := by
  unfold Begun.ofLead?
  rw [if_neg (by omega), if_pos (by omega), Nat.add_sub_cancel]

/-- The first of three bytes announces a character of sixteen bits. It also bounds the second byte,
so that no shorter form and no half of a pair is read. -/
theorem ofLead?_three {n : Nat} (h : 0x7FF < n) (hn : n < 0xD800 ∨ 0xDFFF < n ∧ n ≤ 0xFFFF) :
    ∃ least greatest, Begun.ofLead? (n / 4096 + 0xE0) = some ⟨2, n / 4096, least, greatest⟩ ∧
      least ≤ n / 64 % 64 + 0x80 ∧ n / 64 % 64 + 0x80 ≤ greatest := by
  unfold Begun.ofLead?
  rw [if_neg (by omega), if_neg (by omega)]
  by_cases hfirst : n / 4096 + 0xE0 = 0xE0
  · refine ⟨0xA0, 0xBF, ?_, by omega, by omega⟩
    rw [if_pos hfirst, show n / 4096 = 0 by omega]
  · rw [if_neg hfirst]
    by_cases hhalves : n / 4096 + 0xE0 = 0xED
    · refine ⟨0x80, 0x9F, ?_, by omega, by omega⟩
      rw [if_pos hhalves, show n / 4096 = 0xD by omega]
    · refine ⟨0x80, 0xBF, ?_, by omega, by omega⟩
      rw [if_neg hhalves, if_pos (by omega), Nat.add_sub_cancel]

/-- The first of four bytes announces a character of 21 bits, with the second byte bounded so that
no shorter form and nothing beyond the last code point is read. -/
theorem ofLead?_four {n : Nat} (h : 0xFFFF < n) (hn : n < 0x110000) :
    ∃ least greatest, Begun.ofLead? (n / 262144 + 0xF0) = some ⟨3, n / 262144, least, greatest⟩ ∧
      least ≤ n / 4096 % 64 + 0x80 ∧ n / 4096 % 64 + 0x80 ≤ greatest := by
  unfold Begun.ofLead?
  rw [if_neg (by omega), if_neg (by omega), if_neg (by omega), if_neg (by omega),
    if_neg (by omega)]
  by_cases hfirst : n / 262144 + 0xF0 = 0xF0
  · refine ⟨0x90, 0xBF, ?_, by omega, by omega⟩
    rw [if_pos hfirst, show n / 262144 = 0 by omega]
  · rw [if_neg hfirst]
    by_cases hlast : n / 262144 + 0xF0 = 0xF4
    · refine ⟨0x80, 0x8F, ?_, by omega, by omega⟩
      rw [if_neg (by omega), if_pos hlast, show n / 262144 = 4 by omega]
    · refine ⟨0x80, 0xBF, ?_, by omega, by omega⟩
      rw [if_pos (by omega), Nat.add_sub_cancel]

/-- **The bytes of a character are decoded to it.** -/
theorem decodeBytes_utf8Bytes (c : Char) (rest : List Nat) :
    decodeBytes none (utf8Bytes c ++ rest) = c :: decodeBytes none rest := by
  have hvalid := toNat_valid c
  have hchar : ∀ {n}, n = c.toNat →
      Char.ofNat n :: decodeBytes none rest = c :: decodeBytes none rest := by
    intro n hn
    rw [hn, Char.ofNat_toNat]
  have htail : ∀ n, 0x80 ≤ n % 64 + 0x80 ∧ n % 64 + 0x80 ≤ 0xBF := by
    intro n
    omega
  rw [utf8Bytes_eq]
  split_ifs with hone htwo hthree
  · simp [decodeBytes, takeByte, beginByte, Nat.lt_succ_of_le hone]
  · have hlead := ofLead?_two (n := c.toNat) (by omega) htwo
    rw [List.cons_append, decodeBytes_lead (by omega) hlead, List.cons_append,
      decodeBytes_last (htail _)]
    exact hchar (by omega)
  · obtain ⟨least, greatest, hlead, hsecond⟩ := ofLead?_three (n := c.toNat) (by omega) (by omega)
    rw [List.cons_append, decodeBytes_lead (by omega) hlead, List.cons_append,
      decodeBytes_more hsecond, List.cons_append, decodeBytes_last (htail _)]
    exact hchar (by omega)
  · obtain ⟨least, greatest, hlead, hsecond⟩ := ofLead?_four (n := c.toNat) (by omega) (by omega)
    rw [List.cons_append, decodeBytes_lead (by omega) hlead, List.cons_append,
      decodeBytes_more hsecond, List.cons_append, decodeBytes_more (htail _), List.cons_append,
      decodeBytes_last (htail _)]
    exact hchar (by omega)

/-! ## What resolving escapes does to a text -/

/-- The bytes of a character start it, whatever is under way before. -/
theorem decodeBytes_character {pending : Option Begun} (h : Fits pending) (c : Char)
    (rest : List Nat) :
    decodeBytes pending (utf8Bytes c ++ rest) = cutOff pending ++ c :: decodeBytes none rest := by
  have hfirst : ∃ b bs, utf8Bytes c = b :: bs ∧ (b < 0x80 ∨ 0xC0 ≤ b) := by
    rw [utf8Bytes_eq]
    split_ifs
    · exact ⟨_, _, rfl, by omega⟩
    · exact ⟨_, _, rfl, by omega⟩
    · exact ⟨_, _, rfl, by omega⟩
    · exact ⟨_, _, rfl, by omega⟩
  rw [← decodeBytes_utf8Bytes]
  obtain ⟨b, bs, hbytes, hb⟩ := hfirst
  rw [hbytes, List.cons_append, decodeBytes_start h hb]

/-- A byte completes at most one character, or cuts one off and stands for another. -/
theorem length_takeByte_le (pending : Option Begun) (b : Nat) :
    (takeByte pending b).1.length + (cutOff (takeByte pending b).2).length ≤
      (cutOff pending).length + 1 := by
  have hbegin : (beginByte b).1.length + (cutOff (beginByte b).2).length ≤ 1 := by
    unfold beginByte
    split_ifs
    · exact Nat.le_refl 1
    · cases Begun.ofLead? b with
      | none => exact Nat.le_refl 1
      | some p => exact Nat.le_refl 1
  cases pending with
  | none => exact Nat.le_add_left_of_le hbegin
  | some p =>
    unfold takeByte
    dsimp only
    split_ifs
    · exact Nat.le_add_left 1 _
    · exact Nat.le_add_left 1 _
    · change (beginByte b).1.length + 1 + (cutOff (beginByte b).2).length ≤ 1 + 1
      omega

/-- A text is empty, starts with an escape, or starts with a character that is taken as it is. -/
theorem escapedBytes_cases (s : List Char) :
    s = [] ∨
    (∃ a b v w rest, s = '%' :: a :: b :: rest ∧ HexDigit a v ∧ HexDigit b w ∧
      escapedBytes s = (v * 16 + w) :: escapedBytes rest) ∨
    ∃ c rest, s = c :: rest ∧ escapedBytes s = utf8Bytes c ++ escapedBytes rest ∧
      (HasEscape s → HasEscape rest) := by
  fun_cases escapedBytes s with
  | case1 => exact .inl rfl
  | case2 a b rest v w hb ha =>
    exact .inr (.inl ⟨a, b, v, w, rest, rfl, hexDigit_of_radixDigit? ha,
      hexDigit_of_radixDigit? hb, rfl⟩)
  | case3 a b rest hdigits =>
    refine .inr (.inr ⟨'%', a :: b :: rest, rfl, rfl, fun h => ?_⟩)
    cases h with
    | here ha hb =>
      exact absurd (radixDigit?_of_hexDigit hb)
        fun hb => hdigits _ _ (radixDigit?_of_hexDigit ha) hb
    | later h => exact h
  | case4 c rest hstart =>
    refine .inr (.inr ⟨c, rest, rfl, rfl, fun h => ?_⟩)
    cases h with
    | here => exact absurd rfl fun h => hstart _ _ _ h rfl
    | later h => exact h

/-- **Escapes make a text shorter,** and nothing makes it longer. -/
theorem length_decodeBytes (s : List Char) {pending : Option Begun} (hpending : Fits pending) :
    (decodeBytes pending (escapedBytes s)).length ≤ (cutOff pending).length + s.length ∧
      (HasEscape s →
        (decodeBytes pending (escapedBytes s)).length < (cutOff pending).length + s.length) := by
  induction hlength : s.length using Nat.strongRecOn generalizing s pending with
  | ind n ih =>
    obtain rfl | ⟨a, b, v, w, rest, rfl, -, -, hbytes⟩ | ⟨c, rest, rfl, hbytes, hescape⟩ :=
      escapedBytes_cases s
    · constructor
      · simp [escapedBytes, decodeBytes, cutOff]
      · intro h
        cases h
    · -- Three characters become one byte, which gives two characters at most.
      have hbyte := length_takeByte_le pending (v * 16 + w)
      have hrest := (ih rest.length (by simp at hlength; omega) rest
        (takeByte_fits hpending (v * 16 + w)) rfl).1
      have hless : (decodeBytes pending (escapedBytes ('%' :: a :: b :: rest))).length <
          (cutOff pending).length + n := by
        rw [hbytes, decodeBytes]
        simp only [List.length_append, List.length_cons] at hlength ⊢
        omega
      exact ⟨Nat.le_of_lt hless, fun _ => hless⟩
    · obtain ⟨hle, hlt⟩ := ih rest.length (by simp at hlength; omega) rest fits_none rfl
      have hnone : (cutOff none).length = 0 := rfl
      rw [hbytes, decodeBytes_character hpending]
      simp only [List.length_append, List.length_cons] at hlength ⊢
      constructor
      · omega
      · intro h
        have := hlt (hescape h)
        omega

/-- A text without escapes is taken as it is. -/
theorem percentDecoded_of_not_hasEscape {s : List Char} (h : ¬ HasEscape s) :
    percentDecoded s = s := by
  induction s with
  | nil => simp [percentDecoded, escapedBytes, decodeBytes]
  | cons c s ih =>
    have hrest := ih fun hescape => h (.later hescape)
    obtain hnil | ⟨a, b, v, w, rest, hs, ha, hb, -⟩ | ⟨d, rest, hs, hbytes, -⟩ :=
      escapedBytes_cases (c :: s)
    · exact absurd hnil (List.cons_ne_nil c s)
    · rw [hs] at h
      exact absurd (.here ha hb) h
    · obtain ⟨rfl, rfl⟩ := List.cons.inj hs
      unfold percentDecoded at hrest ⊢
      rw [hbytes, decodeBytes_utf8Bytes, hrest]

/-- **Resolving escapes leaves just those texts as they are that have none.** -/
theorem percentDecoded_eq_self_iff {s : List Char} : percentDecoded s = s ↔ ¬ HasEscape s := by
  constructor
  · intro h hescape
    have hlt := (length_decodeBytes s fits_none).2 hescape
    rw [show decodeBytes none (escapedBytes s) = s from h] at hlt
    simp [cutOff] at hlt
  · exact percentDecoded_of_not_hasEscape

theorem length_percentDecoded_le (s : List Char) : (percentDecoded s).length ≤ s.length := by
  have hle := (length_decodeBytes s fits_none).1
  rwa [show (cutOff none).length = 0 from rfl, Nat.zero_add] at hle

end Rulebook.Text
