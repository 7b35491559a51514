/-
# Texts and how they are cut

A text is the list of its characters.  This file holds the cuts that the rest of the library
is made of:

* at every character of a class (`cutAt`), which loses nothing but those characters;
* at the last occurrence of a separator (`cutAtLast`);
* white space taken off one end or both (`trimEnd`, `trim`), and the words between white space
  (`words`).

White space is the Unicode property White_Space, not the ASCII blanks alone.
-/

namespace Manpage

/-- A text is the list of its characters. -/
abbrev Text := List Char

namespace Text

/-! ## 1. White space -/

/-- The Unicode property White_Space: the ASCII controls from tab to carriage return, the space,
and the spaces and separators beyond ASCII. -/
def isBlank (c : Char) : Bool :=
  let n := c.toNat
  (9 ≤ n && n ≤ 13) || n == 0x20 || n == 0x85 || n == 0xA0 || n == 0x1680
    || (0x2000 ≤ n && n ≤ 0x200A) || n == 0x2028 || n == 0x2029 || n == 0x202F
    || n == 0x205F || n == 0x3000

/-- A text is blank when it holds nothing but white space; the empty text is blank. -/
def blank (s : Text) : Bool := s.all isBlank

/-! ## 2. Ends taken off -/

/-- The text without its longest end made of characters in `p`. -/
def dropEndWhile (p : Char → Bool) (s : Text) : Text := (s.reverse.dropWhile p).reverse

/-- The text without the white space at its end. -/
def trimEnd (s : Text) : Text := dropEndWhile isBlank s

/-- The text without the white space at its beginning. -/
def trimStart (s : Text) : Text := s.dropWhile isBlank

/-- The text without the white space at either end. -/
def trim (s : Text) : Text := trimEnd (trimStart s)

@[simp] theorem dropEndWhile_nil (p : Char → Bool) : dropEndWhile p [] = [] := rfl

theorem dropEndWhile_concat (p : Char → Bool) (s : Text) (c : Char) :
    dropEndWhile p (s ++ [c]) = if p c then dropEndWhile p s else s ++ [c] := by
  by_cases h : p c <;> simp [dropEndWhile, h]

/-! ## 3. Cutting at a class of characters -/

/-- Puts a character in front of the first piece. -/
def consFirst (c : Char) : List Text → List Text
  | [] => [[c]]
  | piece :: rest => (c :: piece) :: rest

/-- The pieces between the characters in `p`, in order: one more than there are such characters,
so that the pieces of an empty text are one empty piece. -/
def cutAt (p : Char → Bool) : Text → List Text
  | [] => [[]]
  | c :: s => if p c then [] :: cutAt p s else consFirst c (cutAt p s)

theorem cutAt_ne_nil (p : Char → Bool) : ∀ s : Text, cutAt p s ≠ []
  | [] => by simp [cutAt]
  | c :: s => by
    unfold cutAt
    split
    · simp
    · cases h : cutAt p s with
      | nil => simp [consFirst]
      | cons => simp [consFirst]

/-- A piece holds none of the characters that it was cut at. -/
theorem not_mem_of_mem_cutAt {p : Char → Bool} :
    ∀ {s piece : Text}, piece ∈ cutAt p s → ∀ c ∈ piece, p c = false
  | [], piece, h, c, hc => by
    simp only [cutAt, List.mem_singleton] at h
    subst h
    cases hc
  | a :: s, piece, h, c, hc => by
    unfold cutAt at h
    split at h
    · rcases List.mem_cons.mp h with rfl | h
      · cases hc
      · exact not_mem_of_mem_cutAt h c hc
    · next ha =>
      cases hs : cutAt p s with
      | nil => exact absurd hs (cutAt_ne_nil p s)
      | cons first rest =>
        rw [hs] at h
        simp only [consFirst, List.mem_cons] at h
        rcases h with rfl | h
        · rcases List.mem_cons.mp hc with rfl | hc
          · simpa using ha
          · exact not_mem_of_mem_cutAt (hs ▸ List.mem_cons_self) c hc
        · exact not_mem_of_mem_cutAt (hs ▸ List.mem_cons_of_mem _ h) c hc

/-- The words of a text: its longest stretches without white space. -/
def words (s : Text) : List Text := (cutAt isBlank s).filter (· ≠ [])

/-! ## 4. Cutting at the last separator -/

/-- The text before and after the last occurrence of `sep`, occurrences that overlap included;
`none` when it does not occur. -/
def cutAtLast (sep : Text) : Text → Option (Text × Text)
  | [] => none
  | c :: s =>
    match cutAtLast sep s with
    | some (before, after) => some (c :: before, after)
    | none => (sep.isPrefixOf? (c :: s)).map ([], ·)

/-! ## 5. Joining -/

/-- The texts one after another with `sep` between neighbours. -/
def join (sep : Text) (parts : List Text) : Text := List.intercalate sep parts

@[simp] theorem join_nil (sep : Text) : join sep [] = [] := rfl

@[simp] theorem join_singleton (sep part : Text) : join sep [part] = part := by
  simp [join, List.intercalate]

@[simp] theorem join_cons_cons (sep a b : Text) (rest : List Text) :
    join sep (a :: b :: rest) = a ++ sep ++ join sep (b :: rest) := by
  simp [join, List.intercalate, List.append_assoc]

/-- A number in decimal digits. -/
def ofNat (n : Nat) : Text := Nat.toDigits 10 n

end Text

end Manpage
