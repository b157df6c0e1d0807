/-!
# Blank characters

A text is *blank* when nothing is left of it after trimming. The same 29 code points are blank
everywhere in this library: in the literals an author writes, in the fields the validator inspects,
in paths, in settings and in patterns (`\s`). They are the Unicode spaces together with the four
information separators U+001C to U+001F and the next-line control U+0085; the zero-width space
U+200B and the byte-order mark U+FEFF are not among them.

`trim` cuts blanks from both ends and nothing else, which `trim_eq_nil_iff` and `trim_of_solid`
pin down from the two sides.
-/

set_option autoImplicit false

namespace Rulebook.Text

/-- The blank code points, as inclusive ranges in increasing order. -/
def blankRanges : List (Nat × Nat) := [
  (0x0009, 0x000D), (0x001C, 0x0020), (0x0085, 0x0085), (0x00A0, 0x00A0), (0x1680, 0x1680),
  (0x2000, 0x200A), (0x2028, 0x2029), (0x202F, 0x202F), (0x205F, 0x205F), (0x3000, 0x3000)
]

/-- Whether a character is trimmed from the ends of a text. -/
def isBlank (c : Char) : Bool :=
  blankRanges.any fun r => r.1 ≤ c.toNat && c.toNat ≤ r.2

/-- A text without the blanks at its two ends. -/
def trim (s : List Char) : List Char :=
  ((s.dropWhile isBlank).reverse.dropWhile isBlank).reverse

/-- Whether a text holds nothing but blanks. -/
def isBlankText (s : String) : Bool :=
  s.toList.all isBlank

/-- Everything core calls white space is blank here too. -/
theorem isBlank_of_isWhitespace {c : Char} (h : c.isWhitespace = true) : isBlank c = true := by
  simp only [Char.isWhitespace, Bool.or_eq_true, decide_eq_true_eq] at h
  rcases h with ((rfl | rfl) | rfl) | rfl <;> decide

/-- Dropping a leading stretch leaves nothing exactly when the stretch is everything. -/
theorem dropWhile_eq_nil {p : Char → Bool} (s : List Char) :
    s.dropWhile p = [] ↔ s.all p = true := by
  induction s with
  | nil => simp
  | cons c r ih => by_cases hc : p c = true <;> simp_all

/-- Nothing is left of a text exactly when it is blank throughout. -/
theorem trim_eq_nil_iff (s : List Char) : trim s = [] ↔ s.all isBlank = true := by
  unfold trim
  rw [List.reverse_eq_nil_iff, dropWhile_eq_nil, List.all_reverse]
  induction s with
  | nil => simp
  | cons c r ih =>
    by_cases hc : isBlank c = true
    · rw [List.dropWhile_cons_of_pos hc, ih, List.all_cons, hc, Bool.true_and]
    · rw [List.dropWhile_cons_of_neg hc]

theorem isBlankText_iff (s : String) : isBlankText s = true ↔ trim s.toList = [] :=
  (trim_eq_nil_iff s.toList).symm

/-- A text that neither starts nor ends with a blank is its own trimmed form. -/
theorem trim_of_solid {s : List Char} (hfirst : ∀ c ∈ s.head?, isBlank c = false)
    (hlast : ∀ c ∈ s.getLast?, isBlank c = false) : trim s = s := by
  have solid : ∀ t : List Char, (∀ c ∈ t.head?, isBlank c = false) → t.dropWhile isBlank = t := by
    intro t ht
    cases t with
    | nil => rfl
    | cons a r => simp [ht a (by simp)]
  unfold trim
  rw [solid s hfirst, solid s.reverse (by simpa using hlast), List.reverse_reverse]

end Rulebook.Text
