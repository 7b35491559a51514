/-
# UTF-8

Texts as bytes and bytes as texts.  Reading goes byte by byte: each character of the text, or
`none` for a longest stretch of bytes that begins a character and does not complete it (a byte
that begins none is such a stretch by itself).  A strict reader (`decode?`) refuses bytes with such
a stretch; a lenient reader (`decodeLossy`) puts U+FFFD in its place.

The second byte of a character is held to the range that its first byte allows, so that overlong
forms, surrogates and numbers above U+10FFFF are stretches that do not complete.
-/
import Manpage.Text.Basic

namespace Manpage

/-- The content of a file or the output of a command. -/
abbrev Bytes := List UInt8

namespace Utf8

/-- The bytes of a text. -/
def encode (s : Text) : Bytes := s.flatMap String.utf8EncodeChar

/-! ## 1. Reading byte by byte -/

/-- A character of which some bytes have been read: its number so far, how many bytes are missing,
and the range that the next one must be in. -/
structure Partial where
  value : Nat
  missing : Nat
  low : UInt8
  high : UInt8

/-- Reads a byte at the beginning of a character. -/
def beginChar (b : UInt8) : List (Option Char) × Option Partial :=
  if b < 0x80 then ([some (Char.ofNat b.toNat)], none)
  else if b < 0xC2 then ([none], none)
  else if b < 0xE0 then ([], some ⟨b.toNat - 0xC0, 1, 0x80, 0xBF⟩)
  else if b < 0xF0 then
    ([], some ⟨b.toNat - 0xE0, 2, if b = 0xE0 then 0xA0 else 0x80, if b = 0xED then 0x9F else 0xBF⟩)
  else if b < 0xF5 then
    ([], some ⟨b.toNat - 0xF0, 3, if b = 0xF0 then 0x90 else 0x80, if b = 0xF4 then 0x8F else 0xBF⟩)
  else ([none], none)

/-- Reads a byte after the bytes of a character that is not complete yet. -/
def continueChar (p : Partial) (b : UInt8) : List (Option Char) × Option Partial :=
  if p.low ≤ b ∧ b ≤ p.high then
    let value := p.value * 64 + (b.toNat - 0x80)
    if p.missing ≤ 1 then ([some (Char.ofNat value)], none)
    else ([], some ⟨value, p.missing - 1, 0x80, 0xBF⟩)
  else
    let (read, next) := beginChar b
    (none :: read, next)

/-- The characters of the bytes after what has been read of a character; `none` stands for a
stretch of bytes that completes no character. -/
def decodeFrom : Option Partial → Bytes → List (Option Char)
  | none, [] => []
  | some _, [] => [none]
  | none, b :: bytes => let (read, next) := beginChar b; read ++ decodeFrom next bytes
  | some p, b :: bytes => let (read, next) := continueChar p b; read ++ decodeFrom next bytes

theorem decodeFrom_none_cons (b : UInt8) (bytes : Bytes) :
    decodeFrom none (b :: bytes) = (beginChar b).1 ++ decodeFrom (beginChar b).2 bytes := rfl

theorem decodeFrom_some_cons (p : Partial) (b : UInt8) (bytes : Bytes) :
    decodeFrom (some p) (b :: bytes)
      = (continueChar p b).1 ++ decodeFrom (continueChar p b).2 bytes := rfl

/-! ## 2. Strict and lenient reading -/

/-- The text of bytes that are UTF-8 throughout. -/
def decode? (bytes : Bytes) : Option Text := (decodeFrom none bytes).mapM id

/-- The text of any bytes, with U+FFFD for what completes no character. -/
def decodeLossy (bytes : Bytes) : Text := (decodeFrom none bytes).map (·.getD '\uFFFD')

/-- How many bytes stand before the first that belongs to no character. -/
def validLength (bytes : Bytes) : Nat :=
  (encode (((decodeFrom none bytes).takeWhile Option.isSome).filterMap id)).length

end Utf8

end Manpage
