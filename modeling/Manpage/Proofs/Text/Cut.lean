/-
# Laws of cutting and joining

What the cuts of `Text/Basic.lean` do to texts that are put together from parts.

* `cutAt_append_cons`: a character that is cut at parts the pieces before it from those after it;
* `cutAt_unlines` and `cutAt_terminated`: the pieces of joined texts are those of the texts;
* `cutAtLast_eq_some_iff`: the last separator is one with no later occurrence;
* `words_eq_iff`: the words of a text are the words that it is written from.
-/
import Mathlib.Data.List.DropRight
import Manpage.Text.Line

namespace Manpage.Text

/-! ## 1. Cutting at a class of characters -/

section Cut

variable {p : Char → Bool}

theorem consFirst_append (c : Char) {ps : List Text} (h : ps ≠ []) (qs : List Text) :
    consFirst c (ps ++ qs) = consFirst c ps ++ qs := by
  cases ps with
  | nil => exact absurd rfl h
  | cons piece rest => rfl

/-- The pieces before a character that is cut at are found apart from those after it. -/
theorem cutAt_append_cons {b : Char} (hb : p b = true) :
    ∀ s t : Text, cutAt p (s ++ b :: t) = cutAt p s ++ cutAt p t
  | [], t => by simp [cutAt, hb]
  | c :: s, t => by
    have ih := cutAt_append_cons hb s t
    rw [List.cons_append, cutAt, cutAt, ih]
    by_cases hc : p c = true
    · rw [if_pos hc, if_pos hc, List.cons_append]
    · rw [if_neg hc, if_neg hc, consFirst_append c (cutAt_ne_nil p s)]

/-- A text that is nowhere cut is its only piece. -/
theorem cutAt_eq_singleton : ∀ {s : Text}, (∀ c ∈ s, p c = false) → cutAt p s = [s]
  | [], _ => rfl
  | c :: s, h => by
    have hc : p c = false := h c List.mem_cons_self
    have ih := cutAt_eq_singleton (s := s) fun d hd => h d (List.mem_cons_of_mem c hd)
    rw [cutAt, hc, ih]
    rfl

end Cut

/-! ## 2. Pieces between line feeds -/

/-- No line feed is no break. -/
theorem isBreak_eq_false_of_mem {s : Text} (h : '\n' ∉ s) : ∀ c ∈ s, isBreak c = false := by
  intro c hc
  have hne : c ≠ '\n' := fun e => h (e ▸ hc)
  simpa [isBreak] using hne

theorem cutAt_isBreak_of_not_mem {s : Text} (h : '\n' ∉ s) : cutAt isBreak s = [s] :=
  cutAt_eq_singleton (isBreak_eq_false_of_mem h)

/-- The first line feed of a text divides it in one way only. -/
theorem append_break_inj {s t x y : Text} (hs : '\n' ∉ s) (ht : '\n' ∉ t)
    (h : s ++ '\n' :: x = t ++ '\n' :: y) : s = t ∧ x = y := by
  induction s generalizing t with
  | nil =>
    cases t with
    | nil => exact ⟨rfl, (List.cons.inj h).2⟩
    | cons b t => exact absurd ((List.cons.inj h).1 ▸ List.mem_cons_self) ht
  | cons a s ih =>
    cases t with
    | nil => exact absurd ((List.cons.inj h).1 ▸ List.mem_cons_self) hs
    | cons b t =>
      obtain ⟨hab, hrest⟩ := List.cons.inj h
      obtain ⟨hst, hxy⟩ := ih (fun m => hs (List.mem_cons_of_mem a m))
        (fun m => ht (List.mem_cons_of_mem b m)) hrest
      exact ⟨by rw [hab, hst], hxy⟩

/-- The pieces of texts that stand one below the other are those of the texts. -/
theorem cutAt_unlines : ∀ {ls : List Text}, ls ≠ [] →
    cutAt isBreak (unlines ls) = ls.flatMap (cutAt isBreak)
  | [], h => absurd rfl h
  | [l], _ => by simp [unlines]
  | l :: m :: ls, _ => by
    have ih : cutAt isBreak (unlines (m :: ls)) = (m :: ls).flatMap (cutAt isBreak) :=
      cutAt_unlines (by simp)
    have hjoin : unlines (l :: m :: ls) = l ++ '\n' :: unlines (m :: ls) := by
      simp [unlines]
    rw [hjoin, cutAt_append_cons rfl, ih]
    exact List.flatMap_cons.symm

/-- A text is its pieces, joined by the character that it was cut at. -/
theorem join_cutAt {b : Char} (hp : ∀ c, p c = true ↔ c = b) :
    ∀ s : Text, join [b] (cutAt p s) = s
  | [] => rfl
  | c :: s => by
    have ih := join_cutAt hp s
    obtain ⟨piece, pieces, hps⟩ := List.exists_cons_of_ne_nil (cutAt_ne_nil p s)
    rw [hps] at ih
    rw [cutAt]
    by_cases hc : p c = true
    · rw [if_pos hc, hps, join_cons_cons, ih, (hp c).mp hc]
      rfl
    · rw [if_neg hc, hps, consFirst]
      cases pieces with
      | nil => rw [join_singleton] at ih ⊢; rw [ih]
      | cons q pieces => rw [join_cons_cons] at ih ⊢; rw [← ih]; rfl

theorem unlines_cutAt (s : Text) : unlines (cutAt isBreak s) = s :=
  join_cutAt (fun c => by simp [isBreak]) s

/-- Texts that are each ended by a line feed. -/
def terminated (ls : List Text) : Text := ls.flatMap (· ++ ['\n'])

theorem terminated_cons (l : Text) (ls : List Text) :
    terminated (l :: ls) = l ++ '\n' :: terminated ls := by
  simp [terminated]

theorem terminated_append (ls ms : List Text) :
    terminated (ls ++ ms) = terminated ls ++ terminated ms :=
  List.flatMap_append

/-- What stands at the end of a line can be read back, if what comes before it is known. -/
theorem terminated_inj {before after after' : List Text} {start s t : Text} (hs : '\n' ∉ s)
    (ht : '\n' ∉ t)
    (h : terminated (before ++ (start ++ s) :: after)
      = terminated (before ++ (start ++ t) :: after')) :
    s = t ∧ terminated after = terminated after' := by
  rw [terminated_append, terminated_append, terminated_cons, terminated_cons, List.append_assoc,
    List.append_assoc] at h
  exact append_break_inj hs ht (List.append_cancel_left (List.append_cancel_left h))

/-- The pieces of texts that are each ended by a line feed are those of the texts, followed by
those of what comes after. -/
theorem cutAt_terminated (t : Text) : ∀ ls : List Text,
    cutAt isBreak (terminated ls ++ t) = ls.flatMap (cutAt isBreak) ++ cutAt isBreak t
  | [] => rfl
  | l :: ls => by
    rw [terminated_cons, List.append_assoc, List.cons_append, cutAt_append_cons rfl,
      cutAt_terminated t ls, List.flatMap_cons, List.append_assoc]

/-- Texts without line feeds are their own pieces. -/
theorem flatMap_cutAt_isBreak {ls : List Text} (h : ∀ l ∈ ls, '\n' ∉ l) :
    ls.flatMap (cutAt isBreak) = ls := by
  induction ls with
  | nil => rfl
  | cons l ls ih =>
    rw [List.flatMap_cons, cutAt_isBreak_of_not_mem (h l List.mem_cons_self),
      ih fun m hm => h m (List.mem_cons_of_mem l hm), List.singleton_append]

/-- Joined texts hold what the separator and the texts hold. -/
theorem not_mem_join {c : Char} {sep : Text} (hsep : c ∉ sep) {parts : List Text}
    (h : ∀ part ∈ parts, c ∉ part) : c ∉ join sep parts := by
  induction parts with
  | nil => exact List.not_mem_nil
  | cons part parts ih =>
    have hpart : c ∉ part := h part List.mem_cons_self
    have hrest := ih fun other ho => h other (List.mem_cons_of_mem part ho)
    cases parts with
    | nil => simpa using hpart
    | cons next parts =>
      rw [join_cons_cons]
      simp [hpart, hsep, hrest]

/-- Joined texts around one of them: each of those before it is followed by the separator, and each
of those after it follows one. -/
theorem join_append_cons (sep : Text) (ps : List Text) (q : Text) (qs : List Text) :
    join sep (ps ++ q :: qs) = ps.flatMap (· ++ sep) ++ q ++ qs.flatMap (sep ++ ·) := by
  induction ps with
  | nil =>
    induction qs generalizing q with
    | nil => simp
    | cons r qs ih =>
      have hrest := ih r
      rw [List.nil_append] at hrest ⊢
      rw [join_cons_cons, hrest]
      simp
  | cons p ps ih =>
    obtain ⟨r, rest, hrest⟩ := List.exists_cons_of_ne_nil (l := ps ++ q :: qs) (by simp)
    rw [hrest] at ih
    rw [List.cons_append, hrest, join_cons_cons, ih]
    simp

/-! ## 3. Prefixes -/

theorem isPrefixOf?_eq_some_iff {p s rest : Text} :
    p.isPrefixOf? s = some rest ↔ s = p ++ rest := by
  rw [List.isPrefixOf?_eq_some_iff_append_eq, eq_comm]

theorem isPrefixOf?_eq_none_iff {p s : Text} :
    p.isPrefixOf? s = none ↔ ∀ rest, s ≠ p ++ rest := by
  constructor
  · intro h rest hs
    rw [isPrefixOf?_eq_some_iff.mpr hs] at h
    cases h
  · intro h
    cases hp : p.isPrefixOf? s with
    | none => rfl
    | some rest => exact absurd (isPrefixOf?_eq_some_iff.mp hp) (h rest)

/-- A character that the prefix does not hold may stand at the end of the text. -/
theorem isPrefixOf?_concat {p : Text} {c : Char} (hc : c ∉ p) (s : Text) :
    p.isPrefixOf? (s ++ [c]) = (p.isPrefixOf? s).map (· ++ [c]) := by
  induction p generalizing s with
  | nil => rfl
  | cons a p ih =>
    have hac : a ≠ c := fun e => hc (e ▸ List.mem_cons_self)
    have hrest : c ∉ p := fun m => hc (List.mem_cons_of_mem a m)
    cases s with
    | nil => simp [List.isPrefixOf?, hac]
    | cons b s =>
      by_cases hab : a = b
      · subst hab
        simp [List.isPrefixOf?, ih hrest]
      · simp [List.isPrefixOf?, hab]

/-- What a text without line feeds begins does not reach over the end of the first line. -/
theorem prefix_of_prefix_append_break {p l rest : Text} (hp : '\n' ∉ p)
    (h : p <+: l ++ '\n' :: rest) : p <+: l := by
  rcases List.prefix_or_prefix_of_prefix h (List.prefix_append l ('\n' :: rest)) with h' | h'
  · exact h'
  · obtain ⟨t, rfl⟩ := h'
    obtain ⟨u, hu⟩ := h
    rw [List.append_assoc, List.append_cancel_left_eq] at hu
    cases t with
    | nil => simp
    | cons a t =>
      have ha : a = '\n' := (List.cons.inj hu).1
      exact absurd (ha ▸ by simp) hp

theorem head?_append_of_eq_some {s : Text} {c : Char} (h : s.head? = some c) (t : Text) :
    (s ++ t).head? = some c := by
  rw [List.head?_append, h]
  rfl

theorem getLast?_append_of_eq_some {t : Text} {c : Char} (h : t.getLast? = some c) (s : Text) :
    (s ++ t).getLast? = some c := by
  rw [List.getLast?_append, h, Option.some_or]

theorem not_prefix_of_head? {p l : Text} {c d : Char} (hp : p.head? = some c)
    (hl : l.head? = some d) (hne : c ≠ d) : ¬ p <+: l := by
  rintro ⟨rest, rfl⟩
  rw [head?_append_of_eq_some hp] at hl
  exact hne (Option.some.inj hl)

/-- A blank line begins with nothing that is not blank. -/
theorem not_prefix_of_blank {p l : Text} (hl : blank l = true) {c : Char} (hc : c ∈ p)
    (hcl : isBlank c = false) : ¬ p <+: l := by
  intro h
  rw [blank, List.all_eq_true] at hl
  rw [hl c (h.subset hc)] at hcl
  cases hcl

/-! ## 4. Cutting at the last separator -/

section LastSeparator

variable {sep : Text}

/-- What is cut at a separator was joined by it. -/
theorem eq_append_of_cutAtLast {s before after : Text}
    (h : cutAtLast sep s = some (before, after)) : s = before ++ sep ++ after := by
  induction s generalizing before after with
  | nil => cases h
  | cons c s ih =>
    rw [cutAtLast] at h
    cases hs : cutAtLast sep s with
    | some cut =>
      obtain ⟨before', after'⟩ := cut
      simp only [hs, Option.some.injEq, Prod.mk.injEq] at h
      obtain ⟨rfl, rfl⟩ := h
      rw [ih hs, List.cons_append, List.cons_append]
    | none =>
      simp only [hs, Option.map_eq_some_iff, Prod.mk.injEq] at h
      obtain ⟨rest, hrest, rfl, rfl⟩ := h
      rw [isPrefixOf?_eq_some_iff.mp hrest, List.nil_append]

/-- Without a cut there is no separator. -/
theorem cutAtLast_eq_none_iff (hsep : sep ≠ []) {s : Text} :
    cutAtLast sep s = none ↔ ∀ before after, s ≠ before ++ sep ++ after := by
  constructor
  · intro h before after
    induction before generalizing s with
    | nil =>
      rintro rfl
      cases sep with
      | nil => exact hsep rfl
      | cons a sep =>
        simp only [List.nil_append, List.cons_append, cutAtLast] at h
        split at h
        · cases h
        · rw [← List.cons_append, Option.map_eq_none_iff] at h
          exact isPrefixOf?_eq_none_iff.mp h after rfl
    | cons b before ih =>
      rintro rfl
      simp only [List.cons_append, cutAtLast] at h
      split at h
      · cases h
      · next hs => exact ih hs rfl
  · intro h
    cases hs : cutAtLast sep s with
    | none => rfl
    | some cut => exact absurd (eq_append_of_cutAtLast hs) (h cut.1 cut.2)

/-- No separator occurs later than the one that a text is cut at. -/
theorem length_le_of_cutAtLast (hsep : sep ≠ []) {s before after : Text}
    (h : cutAtLast sep s = some (before, after)) :
    ∀ before' after', s = before' ++ sep ++ after' → before'.length ≤ before.length := by
  induction s generalizing before with
  | nil => cases h
  | cons c s ih =>
    intro before' after' hs'
    rw [cutAtLast] at h
    cases before' with
    | nil => exact Nat.zero_le _
    | cons b before' =>
      have htail : s = before' ++ sep ++ after' := (List.cons.inj hs').2
      cases hs : cutAtLast sep s with
      | none => exact absurd htail ((cutAtLast_eq_none_iff hsep).mp hs before' after')
      | some cut =>
        obtain ⟨first, last⟩ := cut
        simp only [hs, Option.some.injEq, Prod.mk.injEq] at h
        obtain ⟨rfl, rfl⟩ := h
        exact Nat.succ_le_succ (ih hs before' after' htail)

/-- The last separator is one with no later occurrence, those that overlap it included. -/
theorem cutAtLast_eq_some_iff (hsep : sep ≠ []) {s before after : Text} :
    cutAtLast sep s = some (before, after) ↔
      s = before ++ sep ++ after ∧
        ∀ before' after', s = before' ++ sep ++ after' → before'.length ≤ before.length := by
  constructor
  · intro h
    exact ⟨eq_append_of_cutAtLast h, length_le_of_cutAtLast hsep h⟩
  · rintro ⟨hs, hmax⟩
    cases hcut : cutAtLast sep s with
    | none => exact absurd hs ((cutAtLast_eq_none_iff hsep).mp hcut before after)
    | some cut =>
      obtain ⟨first, last⟩ := cut
      have hs' : s = first ++ sep ++ last := eq_append_of_cutAtLast hcut
      have hlen : before.length = first.length :=
        Nat.le_antisymm (length_le_of_cutAtLast hsep hcut before after hs) (hmax first last hs')
      rw [hs, List.append_assoc, List.append_assoc] at hs'
      obtain ⟨rfl, hrest⟩ := List.append_inj hs' hlen
      rw [List.append_cancel_left hrest]

/-- A character that the separator does not hold moves no cut when it is put at the end. -/
theorem cutAtLast_concat (hsep : sep ≠ []) {c : Char} (hc : c ∉ sep) (s : Text) :
    cutAtLast sep (s ++ [c]) = (cutAtLast sep s).map fun cut => (cut.1, cut.2 ++ [c]) := by
  induction s with
  | nil =>
    have hnone : sep.isPrefixOf? [c] = none := by
      have hconcat := isPrefixOf?_concat hc []
      cases sep with
      | nil => exact absurd rfl hsep
      | cons a sep => exact hconcat
    simp [cutAtLast, hnone]
  | cons a s ih =>
    rw [List.cons_append, cutAtLast, ih, cutAtLast]
    cases cutAtLast sep s with
    | some cut => rfl
    | none =>
      rw [Option.map_none, ← List.cons_append, isPrefixOf?_concat hc]
      cases sep.isPrefixOf? (a :: s) with
      | some rest => rfl
      | none => rfl

end LastSeparator

/-! ## 5. White space taken off the end -/

theorem trimEnd_concat_of_isBlank (s : Text) {c : Char} (hc : isBlank c = true) :
    trimEnd (s ++ [c]) = trimEnd s := by
  rw [trimEnd, dropEndWhile_concat, if_pos hc, trimEnd]

/-- A text whose last character stays keeps its end. -/
theorem dropEndWhile_eq_self {p : Char → Bool} {s : Text}
    (h : ∀ c, s.getLast? = some c → p c = false) : dropEndWhile p s = s := by
  refine List.rdropWhile_eq_self_iff.mpr fun hs => ?_
  rw [h _ (List.getLast?_eq_some_getLast hs)]
  exact Bool.false_ne_true

/-- An end of the class is taken off whole. -/
theorem dropEndWhile_append_of_pos {p : Char → Bool} (s : Text) {tail : Text}
    (h : ∀ c ∈ tail, p c = true) : dropEndWhile p (s ++ tail) = dropEndWhile p s := by
  rw [dropEndWhile, List.reverse_append,
    List.dropWhile_append_of_pos fun c hc => h c (List.mem_reverse.mp hc), dropEndWhile]

/-- What is left after the end is taken off begins the text. -/
theorem dropEndWhile_isPrefix (p : Char → Bool) (s : Text) : dropEndWhile p s <+: s :=
  List.rdropWhile_prefix p s

/-- What is left is told by two facts: only characters of the class are missing, and it does not end
in one. -/
theorem dropEndWhile_eq_iff {p : Char → Bool} {s t : Text} :
    dropEndWhile p s = t ↔
      (∃ tail, s = t ++ tail ∧ ∀ c ∈ tail, p c = true) ∧
        ∀ c, t.getLast? = some c → p c = false := by
  constructor
  · rintro rfl
    have hsplit : dropEndWhile p s ++ s.rtakeWhile p = s := List.rdropWhile_append_rtakeWhile
    refine ⟨⟨s.rtakeWhile p, hsplit.symm, fun c hc => List.mem_rtakeWhile_imp hc⟩, ?_⟩
    intro c hc
    obtain ⟨init, hinit⟩ := List.getLast?_eq_some_iff.mp hc
    have hlast : ∀ hne : dropEndWhile p s ≠ [], ¬p ((dropEndWhile p s).getLast hne) = true :=
      List.rdropWhile_last_not p s
    simpa [hinit] using hlast
  · rintro ⟨⟨tail, rfl, htail⟩, hlast⟩
    rw [dropEndWhile_append_of_pos t htail, dropEndWhile_eq_self hlast]

/-- White space before and behind a text is taken off with that of the text. -/
theorem trim_around {before after : Text} (hbefore : blank before = true)
    (hafter : blank after = true) (s : Text) : trim (before ++ s ++ after) = trim s := by
  rw [blank, List.all_eq_true] at hbefore hafter
  have hstart : trimStart (before ++ s ++ after) = trimStart (s ++ after) := by
    rw [List.append_assoc, trimStart, List.dropWhile_append_of_pos hbefore, trimStart]
  rw [trim, trim, hstart, trimStart, trimStart, List.dropWhile_append]
  split
  · next hnone =>
    -- nothing of the text is left to stand before the white space behind it
    rw [List.isEmpty_iff.mp hnone, List.dropWhile_eq_nil_iff.mpr hafter]
  · exact dropEndWhile_append_of_pos _ hafter

/-! ## 6. Words

`Spaced ws s` says that `s` is written from the words `ws`, with white space between them and,
where one likes, around them.  Taking the words of such a text undoes the writing. -/

/-- A word is not empty and holds no white space. -/
def IsWord (w : Text) : Prop := w ≠ [] ∧ ∀ c ∈ w, isBlank c = false

/-- A text that does not continue the word before it: it is empty or begins with white space. -/
def EndsWord (s : Text) : Prop := ∀ c, s.head? = some c → isBlank c = true

/-- The text is written from the words, with white space between them and around them. -/
inductive Spaced : List Text → Text → Prop
  | nil {gap : Text} : blank gap = true → Spaced [] gap
  | cons {gap w rest : Text} {ws : List Text} :
      blank gap = true → IsWord w → EndsWord rest → Spaced ws rest →
        Spaced (w :: ws) (gap ++ w ++ rest)

theorem isWord_of_mem_words {s w : Text} (h : w ∈ words s) : IsWord w := by
  obtain ⟨hcut, hne⟩ := List.mem_filter.mp h
  exact ⟨by simpa using hne, not_mem_of_mem_cutAt hcut⟩

theorem words_cons_of_isBlank {c : Char} (hc : isBlank c = true) (s : Text) :
    words (c :: s) = words s := by
  rw [words, cutAt, if_pos hc]
  simp [words]

theorem words_blank_append {gap : Text} (h : blank gap = true) (s : Text) :
    words (gap ++ s) = words s := by
  induction gap with
  | nil => rfl
  | cons c gap ih =>
    rw [blank, List.all_cons, Bool.and_eq_true] at h
    rw [List.cons_append, words_cons_of_isBlank h.1, ih h.2]

theorem words_word_append {w rest : Text} (hw : IsWord w) (hrest : EndsWord rest) :
    words (w ++ rest) = w :: words rest := by
  have hcut : cutAt isBlank w = [w] := cutAt_eq_singleton hw.2
  cases rest with
  | nil =>
    rw [List.append_nil, words, hcut]
    simp [hw.1, words, cutAt]
  | cons c rest =>
    have hc : isBlank c = true := hrest c rfl
    rw [words_cons_of_isBlank hc, words, cutAt_append_cons hc, hcut, List.filter_append]
    simp [hw.1, words]

/-- White space at the end of a text belongs to no word. -/
theorem words_append_blank (s : Text) {gap : Text} (h : blank gap = true) :
    words (s ++ gap) = words s := by
  cases gap with
  | nil => rw [List.append_nil]
  | cons c gap =>
    rw [blank, List.all_cons, Bool.and_eq_true] at h
    have hgap : words gap = [] := by
      have hblank := words_blank_append h.2 []
      rw [List.append_nil] at hblank
      exact hblank
    rw [words, cutAt_append_cons h.1, List.filter_append]
    change words s ++ words gap = words s
    rw [hgap, List.append_nil]

theorem words_trimEnd (s : Text) : words (trimEnd s) = words s := by
  have hsplit : trimEnd s ++ s.rtakeWhile isBlank = s := List.rdropWhile_append_rtakeWhile
  have hblank : blank (s.rtakeWhile isBlank) = true := by
    rw [blank, List.rtakeWhile, List.all_reverse]
    exact List.all_takeWhile
  rw [← words_append_blank (trimEnd s) hblank, hsplit]

/-- The words of a text are those that it is written from. -/
theorem words_of_spaced {ws : List Text} {s : Text} (h : Spaced ws s) : words s = ws := by
  induction h with
  | nil hgap =>
    have hwords := words_blank_append hgap []
    rw [List.append_nil] at hwords
    rw [hwords]
    rfl
  | cons hgap hw hrest _ ih =>
    rw [List.append_assoc, words_blank_append hgap, words_word_append hw hrest, ih]

/-- A text that begins a word begins with a whole word. -/
theorem exists_word {c : Char} (hc : isBlank c = false) (s : Text) :
    ∃ w rest, c :: s = w ++ rest ∧ IsWord w ∧ EndsWord rest := by
  have hsingle : IsWord [c] := ⟨by simp, by simpa using hc⟩
  induction s generalizing c with
  | nil => exact ⟨[c], [], rfl, hsingle, by simp [EndsWord]⟩
  | cons d s ih =>
    cases hd : isBlank d with
    | true => exact ⟨[c], d :: s, rfl, hsingle, by simpa [EndsWord] using hd⟩
    | false =>
      obtain ⟨w, rest, hs, hw, hrest⟩ := ih hd ⟨by simp, by simpa using hd⟩
      refine ⟨c :: w, rest, by rw [hs, List.cons_append], ⟨by simp, ?_⟩, hrest⟩
      intro e he
      rcases List.mem_cons.mp he with rfl | he
      · exact hc
      · exact hw.2 e he

theorem Spaced.blank_cons {c : Char} (hc : isBlank c = true) {ws : List Text} {s : Text}
    (h : Spaced ws s) : Spaced ws (c :: s) := by
  have hlonger : ∀ {gap : Text}, blank gap = true → blank (c :: gap) = true := by
    intro gap hgap
    rw [blank, List.all_cons, hc]
    exact hgap
  cases h with
  | nil hgap => exact .nil (hlonger hgap)
  | cons hgap hw hrest hws => exact .cons (hlonger hgap) hw hrest hws

/-- Every text is written from its words. -/
theorem spaced_words : ∀ s : Text, Spaced (words s) s
  | [] => .nil rfl
  | c :: s => by
    cases hc : isBlank c with
    | true =>
      rw [words_cons_of_isBlank hc]
      exact .blank_cons hc (spaced_words s)
    | false =>
      obtain ⟨w, rest, hs, hw, hrest⟩ := exists_word hc s
      have hlt : rest.length < (c :: s).length := by
        have hpos : 0 < w.length := List.length_pos_iff.mpr hw.1
        rw [hs, List.length_append]
        omega
      rw [hs, words_word_append hw hrest]
      have hgap : blank [] = true := rfl
      exact .cons hgap hw hrest (spaced_words rest)
termination_by s => s.length
decreasing_by
  · exact hlt
  · exact Nat.lt_succ_self s.length

theorem words_eq_iff {ws : List Text} {s : Text} : words s = ws ↔ Spaced ws s :=
  ⟨fun h => h ▸ spaced_words s, words_of_spaced⟩

/-- A text without words is blank. -/
theorem words_eq_nil_iff {s : Text} : words s = [] ↔ blank s = true := by
  rw [words_eq_iff]
  constructor
  · intro h
    cases h with
    | nil hblank => exact hblank
  · exact .nil

end Manpage.Text
