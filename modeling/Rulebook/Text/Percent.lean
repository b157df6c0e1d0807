import Rulebook.Text.Digit

/-!
# Percent escapes

In addresses a byte is written as `%` and two hexadecimal digits, and a text is the bytes of its
UTF-8 form. `percentEncoded` escapes all characters but the given ones; `percentDecoded` resolves
escapes and takes everything else as it is. Bytes that are no UTF-8 do not stop the decoding: every
stretch of bytes that starts like a character and is cut off, and every byte that starts none,
becomes one replacement character.

The decoder reads byte by byte. What it has to remember is a `Begun`: a character that has begun and
what may come next.
-/

set_option autoImplicit false

namespace Rulebook.Text

/-- The bytes of a character. -/
def utf8Bytes (c : Char) : List Nat :=
  (String.utf8EncodeChar c).map UInt8.toNat

/-- A character that has begun: how many bytes are still to come, the bits so far, and the range of
the next byte. -/
structure Begun where
  missing : Nat
  bits : Nat
  least : Nat
  greatest : Nat
deriving DecidableEq

/-- What a byte that starts a longer character begins. -/
def Begun.ofLead? (b : Nat) : Option Begun :=
  if b < 0xC2 then none
  else if b < 0xE0 then some ⟨1, b - 0xC0, 0x80, 0xBF⟩
  else if b = 0xE0 then some ⟨2, 0, 0xA0, 0xBF⟩
  else if b = 0xED then some ⟨2, 0xD, 0x80, 0x9F⟩
  else if b < 0xF0 then some ⟨2, b - 0xE0, 0x80, 0xBF⟩
  else if b = 0xF0 then some ⟨3, 0, 0x90, 0xBF⟩
  else if b < 0xF4 then some ⟨3, b - 0xF0, 0x80, 0xBF⟩
  else if b = 0xF4 then some ⟨3, 4, 0x80, 0x8F⟩
  else none

/-- What stands in the place of bytes that are no character. -/
def replacement : Char := '\uFFFD'

/-- The character that a byte is, or what it begins. -/
def beginByte (b : Nat) : List Char × Option Begun :=
  if b < 0x80 then ([Char.ofNat b], none)
  else match Begun.ofLead? b with
    | some p => ([], some p)
    | none => ([replacement], none)

/-- The characters that a byte completes, and the character that is then under way. -/
def takeByte (pending : Option Begun) (b : Nat) : List Char × Option Begun :=
  match pending with
  | none => beginByte b
  | some p =>
    if p.least ≤ b && b ≤ p.greatest then
      let bits := p.bits * 64 + (b - 0x80)
      if p.missing ≤ 1 then ([Char.ofNat bits], none)
      else ([], some ⟨p.missing - 1, bits, 0x80, 0xBF⟩)
    else
      let (cs, next) := beginByte b
      (replacement :: cs, next)

/-- The text of some bytes. -/
def decodeBytes (pending : Option Begun) : List Nat → List Char
  | [] => if pending.isSome then [replacement] else []
  | b :: rest =>
    let (cs, next) := takeByte pending b
    cs ++ decodeBytes next rest

/-- The bytes of a text in which `%` with two hexadecimal digits stands for a byte. -/
def escapedBytes : List Char → List Nat
  | [] => []
  | '%' :: a :: b :: rest =>
    match radixDigit? 16 a, radixDigit? 16 b with
    | some high, some low => (high * 16 + low) :: escapedBytes rest
    | _, _ => utf8Bytes '%' ++ escapedBytes (a :: b :: rest)
  | c :: rest => utf8Bytes c ++ escapedBytes rest
termination_by s => s.length

/-- A text with its percent escapes resolved. -/
def percentDecoded (s : List Char) : List Char :=
  decodeBytes none (escapedBytes s)

/-- A hexadecimal digit in upper case. -/
def hexDigit (n : Nat) : Char :=
  if n < 10 then Char.ofNat (48 + n) else Char.ofNat (55 + n)

/-- The escape of a byte. -/
def escapeByte (b : Nat) : List Char :=
  ['%', hexDigit (b / 16), hexDigit (b % 16)]

/-- Characters that never need an escape. -/
def isUnreserved (c : Char) : Bool :=
  ('a' ≤ c && c ≤ 'z') || ('A' ≤ c && c ≤ 'Z') || ('0' ≤ c && c ≤ '9') ||
    c == '_' || c == '.' || c == '-' || c == '~'

/-- A text in which everything is escaped but unreserved characters and those to keep. -/
def percentEncoded (keep : List Char) (s : List Char) : List Char :=
  s.flatMap fun c =>
    if isUnreserved c || keep.contains c then [c] else (utf8Bytes c).flatMap escapeByte

end Rulebook.Text
