/-
# Bytes of a text read back

The bytes of a text give the text back to the lenient reader, which has nothing to mend in them
(`decodeLossy_encode`).  The reader goes byte by byte, and the writer knows the
character as a whole; they meet in the number of the character, of which the first byte has the
highest bits and each further byte six more.  The bounds that hold the second byte to the range of
the first are met because the number is written with as few bytes as it needs, and because no
character is a surrogate.
-/
import Mathlib.Data.List.Basic
import Manpage.Text.Utf8

namespace Manpage.Utf8

/-! ## 1. One byte -/

section Byte

variable {n : Nat} (hn : n < 256)

include hn

theorem toNat_ofNat_of_lt : (UInt8.ofNat n).toNat = n := by
  rw [UInt8.toNat_ofNat', Nat.mod_eq_of_lt hn]

theorem ofNat_lt_iff {b : UInt8} : UInt8.ofNat n < b ↔ n < b.toNat := by
  rw [UInt8.lt_iff_toNat_lt, toNat_ofNat_of_lt hn]

theorem ofNat_eq_iff {b : UInt8} : UInt8.ofNat n = b ↔ n = b.toNat := by
  rw [← UInt8.toNat_inj, toNat_ofNat_of_lt hn]

/-- What the first byte of a character tells, by its number. -/
theorem beginChar_ofNat :
    beginChar (UInt8.ofNat n) =
      if n < 0x80 then ([some (Char.ofNat n)], none)
      else if n < 0xC2 then ([none], none)
      else if n < 0xE0 then ([], some ⟨n - 0xC0, 1, 0x80, 0xBF⟩)
      else if n < 0xF0 then
        ([], some ⟨n - 0xE0, 2, if n = 0xE0 then 0xA0 else 0x80, if n = 0xED then 0x9F else 0xBF⟩)
      else if n < 0xF5 then
        ([], some ⟨n - 0xF0, 3, if n = 0xF0 then 0x90 else 0x80, if n = 0xF4 then 0x8F else 0xBF⟩)
      else ([none], none) := by
  simp only [beginChar, ofNat_lt_iff hn, ofNat_eq_iff hn, toNat_ofNat_of_lt hn]
  rfl

/-- A byte in the range that is expected adds its bits. -/
theorem continueChar_ofNat {p : Partial} (hlow : p.low.toNat ≤ n) (hhigh : n ≤ p.high.toNat) :
    continueChar p (UInt8.ofNat n) =
      if p.missing ≤ 1 then ([some (Char.ofNat (p.value * 64 + (n - 0x80)))], none)
      else ([], some ⟨p.value * 64 + (n - 0x80), p.missing - 1, 0x80, 0xBF⟩) := by
  have hrange : p.low ≤ UInt8.ofNat n ∧ UInt8.ofNat n ≤ p.high := by
    rw [UInt8.le_iff_toNat_le, UInt8.le_iff_toNat_le, toNat_ofNat_of_lt hn]
    exact ⟨hlow, hhigh⟩
  rw [continueChar, if_pos hrange, toNat_ofNat_of_lt hn]

end Byte

/-! ## 2. One character -/

section Steps

variable {n : Nat} (rest : Bytes)

theorem decodeFrom_one (h : n < 0x80) :
    decodeFrom none (UInt8.ofNat n :: rest) = some (Char.ofNat n) :: decodeFrom none rest := by
  rw [decodeFrom_none_cons, beginChar_ofNat (by omega), if_pos h]
  rfl

/-- The first of two bytes. -/
theorem decodeFrom_two (hlow : 0xC2 ≤ n) (hhigh : n < 0xE0) :
    decodeFrom none (UInt8.ofNat n :: rest)
      = decodeFrom (some ⟨n - 0xC0, 1, 0x80, 0xBF⟩) rest := by
  rw [decodeFrom_none_cons, beginChar_ofNat (by omega), if_neg (by omega), if_neg (by omega),
    if_pos hhigh]
  rfl

/-- The first of three bytes: the lowest and that of the surrogates narrow the second. -/
theorem decodeFrom_three (hlow : 0xE0 ≤ n) (hhigh : n < 0xF0) :
    decodeFrom none (UInt8.ofNat n :: rest) = decodeFrom
      (some ⟨n - 0xE0, 2, if n = 0xE0 then 0xA0 else 0x80, if n = 0xED then 0x9F else 0xBF⟩) rest
    := by
  rw [decodeFrom_none_cons, beginChar_ofNat (by omega), if_neg (by omega), if_neg (by omega),
    if_neg (by omega), if_pos hhigh]
  rfl

/-- The first of four bytes: the lowest and the highest narrow the second. -/
theorem decodeFrom_four (hlow : 0xF0 ≤ n) (hhigh : n < 0xF5) :
    decodeFrom none (UInt8.ofNat n :: rest) = decodeFrom
      (some ⟨n - 0xF0, 3, if n = 0xF0 then 0x90 else 0x80, if n = 0xF4 then 0x8F else 0xBF⟩) rest
    := by
  rw [decodeFrom_none_cons, beginChar_ofNat (by omega), if_neg (by omega), if_neg (by omega),
    if_neg (by omega), if_neg (by omega), if_pos hhigh]
  rfl

end Steps

/-- A further byte before the last, which carries six bits. -/
theorem decodeFrom_more {value missing bits : Nat} {low high : UInt8} (hbits : bits < 64)
    (hlow : low.toNat ≤ bits + 128) (hhigh : bits + 128 ≤ high.toNat) (rest : Bytes) :
    decodeFrom (some ⟨value, missing + 2, low, high⟩) (UInt8.ofNat (bits + 128) :: rest)
      = decodeFrom (some ⟨value * 64 + bits, missing + 1, 0x80, 0xBF⟩) rest := by
  rw [decodeFrom_some_cons, continueChar_ofNat (by omega) hlow hhigh, if_neg (by simp)]
  simp

/-- The last byte. -/
theorem decodeFrom_last {value bits : Nat} (hbits : bits < 64) (rest : Bytes) :
    decodeFrom (some ⟨value, 1, 0x80, 0xBF⟩) (UInt8.ofNat (bits + 128) :: rest)
      = some (Char.ofNat (value * 64 + bits)) :: decodeFrom none rest := by
  rw [decodeFrom_some_cons, continueChar_ofNat (by omega) (by simp) (by simp; omega),
    if_pos (Nat.le_refl 1)]
  simp

/-- **The bytes of a character give the character**, whatever follows. -/
theorem decodeFrom_encodeChar (c : Char) (rest : Bytes) :
    decodeFrom none (String.utf8EncodeChar c ++ rest) = some c :: decodeFrom none rest := by
  have hvalid : c.val.toNat < 0xD800 ∨ 0xDFFF < c.val.toNat ∧ c.val.toNat < 0x110000 := c.valid
  have hchar : Char.ofNat c.val.toNat = c := Char.ofNat_toNat c
  unfold String.utf8EncodeChar
  generalize c.val.toNat = v at hvalid hchar
  dsimp only
  split_ifs with hone htwo hthree
  · rw [List.singleton_append, decodeFrom_one rest (by omega), hchar]
  · have hnumber : (v / 64 % 32 + 192 - 0xC0) * 64 + v % 64 = v := by omega
    rw [List.cons_append, List.singleton_append, decodeFrom_two _ (by omega) (by omega),
      decodeFrom_last (by omega), hnumber, hchar]
  · have hnumber : ((v / 4096 % 16 + 224 - 0xE0) * 64 + v / 64 % 64) * 64 + v % 64 = v := by omega
    rw [List.cons_append, List.cons_append, List.singleton_append,
      decodeFrom_three _ (by omega) (by omega), decodeFrom_more (by omega) ?low ?high,
      decodeFrom_last (by omega), hnumber, hchar]
    case low =>
      -- after the lowest first byte a number that needs three bytes has higher bits left
      split_ifs
      · simp
        omega
      · simp
    case high =>
      -- the numbers from 0xD800 on are surrogates
      split_ifs <;> (simp; omega)
  · have hnumber : (((v / 262144 % 8 + 240 - 0xF0) * 64 + v / 4096 % 64) * 64
        + v / 64 % 64) * 64 + v % 64 = v := by omega
    rw [List.cons_append, List.cons_append, List.cons_append, List.singleton_append,
      decodeFrom_four _ (by omega) (by omega), decodeFrom_more (by omega) ?low ?high,
      decodeFrom_more (by omega) (by simp) (by simp; omega),
      decodeFrom_last (by omega), hnumber, hchar]
    case low =>
      split_ifs
      · simp
        omega
      · simp
    case high =>
      -- no number is above 0x10FFFF
      split_ifs <;> (simp; omega)

/-! ## 3. Texts -/

/-- The bytes of a text hold its characters and no broken one. -/
theorem decodeFrom_encode (s : Text) : decodeFrom none (encode s) = s.map some := by
  induction s with
  | nil => rfl
  | cons c s ih =>
    rw [encode, List.flatMap_cons, decodeFrom_encodeChar, List.map_cons]
    exact congrArg (some c :: ·) ih

/-- **The lenient reader gives a text back from its bytes.** -/
theorem decodeLossy_encode (s : Text) : decodeLossy (encode s) = s := by
  rw [decodeLossy, decodeFrom_encode, List.map_map]
  exact List.map_id s

theorem encode_injective : Function.Injective encode :=
  Function.LeftInverse.injective decodeLossy_encode

end Manpage.Utf8
