/-
# Laws of the order of texts

* `ordered_congr`: putting a list in order depends on its members alone, and `ordered_eq_self`
  leaves a list that is in order as it is;
* `before_eq_bytes`: texts compare as their bytes do.  A character with the smaller code point has
  the smaller bytes, because each further byte of a character carries six bits, the highest first,
  and the first byte grows with the number of those that follow.
-/
import Mathlib.Data.List.Sort
import Manpage.Text.Ordered
import Manpage.Text.Utf8

namespace Manpage

/-! ## 1. Lists in strict order -/

section Strict

variable {α : Type} {before : α → α → Bool}

/-- Two lists in strict order with the same members are equal. -/
theorem StrictOrder.eq_of_mem_iff (h : StrictOrder before) {xs ys : List α}
    (hxs : xs.Pairwise fun a b => before a b = true)
    (hys : ys.Pairwise fun a b => before a b = true) (hmem : ∀ a, a ∈ xs ↔ a ∈ ys) : xs = ys := by
  have hantisymm : Std.Antisymm fun a b => before a b = true :=
    ⟨fun a b hab hba => absurd hba (by rw [h.asymm hab]; exact Bool.false_ne_true)⟩
  have hirrefl : Std.Irrefl fun a b => before a b = true :=
    ⟨fun a => by rw [h.irrefl a]; exact Bool.false_ne_true⟩
  exact hxs.eq_of_mem_iff hys hmem

/-- A list in strict order holds nothing twice. -/
theorem StrictOrder.nodup (h : StrictOrder before) {xs : List α}
    (hxs : xs.Pairwise fun a b => before a b = true) : xs.Nodup :=
  hxs.imp fun {a b} hab he => by
    rw [he, h.irrefl b] at hab
    exact Bool.false_ne_true hab

/-- What begins alike compares by what follows. -/
theorem lexBefore_append_left [DecidableEq α] (h : ∀ a, before a a = false) (p s t : List α) :
    lexBefore before (p ++ s) (p ++ t) = lexBefore before s t := by
  induction p with
  | nil => rfl
  | cons a p ih =>
    rw [← ih]
    simp [lexBefore, h]

end Strict

namespace Text

/-- Order keeps nothing of a list but its members. -/
theorem ordered_congr {ts us : List Text} (h : ∀ t, t ∈ ts ↔ t ∈ us) : ordered ts = ordered us :=
  strictOrder_before.eq_of_mem_iff (pairwise_ordered ts) (pairwise_ordered us) fun t => by
    rw [mem_ordered, mem_ordered, h t]

/-- A list in order stays as it is. -/
theorem ordered_eq_self {ts : List Text} (h : ts.Pairwise fun s t => before s t = true) :
    ordered ts = ts :=
  strictOrder_before.eq_of_mem_iff (pairwise_ordered ts) h fun _ => mem_ordered ts

end Text

/-! ## 2. The order of bytes -/

namespace Utf8

/-- Whether bytes come before others: by the first that differs, and a beginning before the
whole. -/
def before (s t : Bytes) : Bool := lexBefore (fun a b => decide (a < b)) s t

/-- Bytes that begin with numbers below 256 compare by these first. -/
theorem before_cons_iff {m n : Nat} (hm : m < 256) (hn : n < 256) (s t : Bytes) :
    before (UInt8.ofNat m :: s) (UInt8.ofNat n :: t) = true
      ↔ m < n ∨ m = n ∧ before s t = true := by
  have hlt : UInt8.ofNat m < UInt8.ofNat n ↔ m < n := by
    rw [UInt8.lt_iff_toNat_lt, UInt8.toNat_ofNat', UInt8.toNat_ofNat', Nat.mod_eq_of_lt hm,
      Nat.mod_eq_of_lt hn]
  have heq : UInt8.ofNat m = UInt8.ofNat n ↔ m = n := by
    rw [← UInt8.toNat_inj, UInt8.toNat_ofNat', UInt8.toNat_ofNat', Nat.mod_eq_of_lt hm,
      Nat.mod_eq_of_lt hn]
  simp [before, lexBefore, hlt, heq]

theorem before_append_left (p s t : Bytes) : before (p ++ s) (p ++ t) = before s t :=
  lexBefore_append_left (fun b => by simp) p s t

/-- The first byte decides, or if the first bytes are the same, what follows. -/
theorem before_cons_of_le {m n : Nat} (hm : m < 256) (hn : n < 256) (hle : m ≤ n) {s t : Bytes}
    (h : m = n → before s t = true) :
    before (UInt8.ofNat m :: s) (UInt8.ofNat n :: t) = true :=
  (before_cons_iff hm hn s t).mpr ((Nat.lt_or_eq_of_le hle).imp_right fun heq => ⟨heq, h heq⟩)

section Continuation

variable {v w : Nat} (hlt : v < w) (s t : Bytes)

include hlt

/-! The last one, two or three bytes of a character decide when the bits before them agree. -/

theorem before_last (heq : v / 64 = w / 64) :
    before (UInt8.ofNat (v % 64 + 128) :: s) (UInt8.ofNat (w % 64 + 128) :: t) = true :=
  before_cons_of_le (by omega) (by omega) (by omega) fun _ => absurd heq (by omega)

theorem before_lastTwo (heq : v / 4096 = w / 4096) :
    before (UInt8.ofNat (v / 64 % 64 + 128) :: UInt8.ofNat (v % 64 + 128) :: s)
      (UInt8.ofNat (w / 64 % 64 + 128) :: UInt8.ofNat (w % 64 + 128) :: t) = true :=
  before_cons_of_le (by omega) (by omega) (by omega) fun _ => before_last hlt s t (by omega)

theorem before_lastThree (heq : v / 262144 = w / 262144) :
    before (UInt8.ofNat (v / 4096 % 64 + 128) :: UInt8.ofNat (v / 64 % 64 + 128)
        :: UInt8.ofNat (v % 64 + 128) :: s)
      (UInt8.ofNat (w / 4096 % 64 + 128) :: UInt8.ofNat (w / 64 % 64 + 128)
        :: UInt8.ofNat (w % 64 + 128) :: t) = true :=
  before_cons_of_le (by omega) (by omega) (by omega) fun _ => before_lastTwo hlt s t (by omega)

end Continuation

/-- **The smaller character has the smaller bytes**, whatever follows. -/
theorem before_encodeChar {a b : Char} (h : Text.charBefore a b = true) (s t : Bytes) :
    before (String.utf8EncodeChar a ++ s) (String.utf8EncodeChar b ++ t) = true := by
  have hbound : b.val.toNat < 0x110000 := by
    have hvalid := b.valid
    simp only [UInt32.isValidChar, Nat.isValidChar] at hvalid
    omega
  have hlt : a.val.toNat < b.val.toNat := of_decide_eq_true h
  unfold String.utf8EncodeChar
  generalize a.val.toNat = v at hlt ⊢
  generalize b.val.toNat = w at hlt hbound ⊢
  dsimp only
  split_ifs
  -- of the sixteen pairs of lengths, those with the longer character first cannot be
  all_goals first
    | omega
    | simp only [List.cons_append, List.nil_append]
      refine before_cons_of_le (by omega) (by omega) (by omega) fun hfirst => ?_
  -- and of the others, those with the same length alone may have the same first byte
  all_goals try omega
  · exact before_last hlt s t (by omega)
  · exact before_lastTwo hlt s t (by omega)
  · exact before_lastThree hlt s t (by omega)

theorem strictOrder_before : StrictOrder before :=
  StrictOrder.lex
    { irrefl := fun a => by simp
      trans := fun a b c hab hbc => by
        simp only [decide_eq_true_eq] at *
        exact UInt8.lt_trans hab hbc
      total := fun a b hab hba => by
        simp only [decide_eq_false_iff_not, UInt8.not_lt] at hab hba
        exact UInt8.le_antisymm hba hab }

/-- **Texts compare as their bytes do.** -/
theorem before_encode : ∀ s t : Text, before (encode s) (encode t) = Text.before s t
  | [], [] => rfl
  | [], b :: t => by
    have hne : encode (b :: t) ≠ [] := by
      simp [encode, List.flatMap_cons, String.utf8EncodeChar_ne_nil]
    cases hbytes : encode (b :: t) with
    | nil => exact absurd hbytes hne
    | cons byte bytes => rfl
  | a :: s, [] => by
    have hempty : ∀ bytes : Bytes, before bytes [] = false := by
      intro bytes
      cases bytes <;> rfl
    rw [show encode [] = [] from rfl, hempty]
    rfl
  | a :: s, b :: t => by
    have hsplit : ∀ (c : Char) (u : Text), encode (c :: u) = String.utf8EncodeChar c ++ encode u :=
      fun c u => List.flatMap_cons
    rw [hsplit, hsplit, Text.before, lexBefore]
    cases hab : Text.charBefore a b with
    | true => exact before_encodeChar hab (encode s) (encode t)
    | false =>
      cases hba : Text.charBefore b a with
      | true =>
        have hne : a ≠ b := by
          rintro rfl
          rw [hab] at hba
          cases hba
        rw [strictOrder_before.asymm (before_encodeChar hba (encode t) (encode s))]
        simp [hne]
      | false =>
        obtain rfl := Text.strictOrder_charBefore.total a b hab hba
        rw [before_append_left, before_encode s t, Text.before]
        simp

end Utf8

end Manpage
