/-!
# Replacing parts of a text

`replaced` puts one text in the place of another wherever it occurs, from left to right and without
overlaps. `swapStart` does so at the start of a text only.
-/

set_option autoImplicit false

namespace Rulebook.Text

/-- What follows a text at the start of another. -/
def afterStart? (start : List Char) (s : List Char) : Option (List Char) :=
  if start.isPrefixOf s then some (s.drop start.length) else none

/-- A text with its start replaced, if it starts that way. -/
def swapStart? (old new : List Char) (s : List Char) : Option (List Char) :=
  (afterStart? old s).map (new ++ ·)

/-- `replaced`, after the next `skip` characters have been passed over. -/
def replacedAfter (old new : List Char) : (skip : Nat) → List Char → List Char
  | _, [] => []
  | skip + 1, _ :: rest => replacedAfter old new skip rest
  | 0, c :: rest =>
    if old.isPrefixOf (c :: rest) then new ++ replacedAfter old new (old.length - 1) rest
    else c :: replacedAfter old new 0 rest

/-- A text with every occurrence of a part, which is not empty, replaced. -/
def replaced (old new : List Char) (s : List Char) : List Char :=
  replacedAfter old new 0 s

end Rulebook.Text
