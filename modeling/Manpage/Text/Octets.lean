/-
# Texts of bytes

Commands pass bytes to each other, and a text of bytes has one character for each byte, the one with
its number.  A path or an argument is turned into such a text before a command sees it, and back
where the files are asked for it.
-/
import Manpage.Text.Utf8

namespace Manpage.Text

/-- Bytes as the characters with their numbers. -/
def ofBytes (bytes : Bytes) : Text := bytes.map fun b => Char.ofNat b.toNat

/-- The bytes that characters below number 256 stand for. -/
def toBytes (s : Text) : Bytes := s.map fun c => c.toNat.toUInt8

/-- A text as a text of its bytes. -/
def octets (s : Text) : Text := ofBytes (Utf8.encode s)

/-- A text of bytes as the text that it encodes. -/
def ofOctets (s : Text) : Text := Utf8.decodeLossy (toBytes s)

@[simp] theorem length_ofBytes (bytes : Bytes) : (ofBytes bytes).length = bytes.length := by
  simp [ofBytes]

@[simp] theorem length_toBytes (s : Text) : (toBytes s).length = s.length := by
  simp [toBytes]

end Manpage.Text
