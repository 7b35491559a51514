/-
# Laws of lines

A text either has no line feed or is a first line, a line feed and the rest (`lineInduction`).
`lines`, `lineStarts` and `blockBelow` are described along that division, so that what is said of
one line carries over to a text of any length:

* `lines_append_break`, `lines_terminated`: the lines of a text that is put together from lines;
* `findSome?_lineStarts`: a search that looks at one line only runs through the pieces between
  line feeds;
* `blockBelow_eq_some_iff` and `blockBelow_skip`: where a block of lines is found;
* `lines_withReturns`: a carriage return before each line feed changes no line.
-/
import Mathlib.Data.List.TakeWhile
import Manpage.Proofs.Text.Cut

namespace Manpage.Text

/-! ## 1. A text line by line -/

/-- To prove something of every text, prove it of a text without line feeds, and of a first line
followed by a text that it holds of. -/
theorem lineInduction {motive : Text → Prop} (last : ∀ l : Text, '\n' ∉ l → motive l)
    (more : ∀ l rest : Text, '\n' ∉ l → motive rest → motive (l ++ '\n' :: rest)) (s : Text) :
    motive s := by
  by_cases h : '\n' ∈ s
  · obtain ⟨l, rest, hs, hl⟩ := List.eq_append_cons_of_mem h
    have hlt : rest.length < s.length := by
      rw [hs, List.length_append, List.length_cons]
      omega
    rw [hs]
    exact more l rest hl (lineInduction last more rest)
  · exact last s h
termination_by s.length

/-! ## 2. Lines -/

theorem dropReturn_eq_self {s : Text} (h : s.getLast? ≠ some '\r') : dropReturn s = s := by
  rw [dropReturn, if_neg h]

theorem dropReturn_of_not_mem {s : Text} (h : '\r' ∉ s) : dropReturn s = s :=
  dropReturn_eq_self fun hlast => h (List.mem_of_getLast? hlast)

theorem dropReturn_concat (s : Text) : dropReturn (s ++ ['\r']) = s := by
  simp [dropReturn]

theorem dropReturn_isPrefix (s : Text) : dropReturn s <+: s := by
  unfold dropReturn
  split
  · exact List.dropLast_prefix s
  · exact List.prefix_refl s

/-- The last line needs no line feed, but there is none where nothing is left. -/
theorem lines_of_not_mem {l : Text} (hl : '\n' ∉ l) : lines l = if l = [] then [] else [l] := by
  rw [lines, cutAt_isBreak_of_not_mem hl]
  rfl

theorem lines_append_break {l : Text} (hl : '\n' ∉ l) (rest : Text) :
    lines (l ++ '\n' :: rest) = dropReturn l :: lines rest := by
  rw [lines, cutAt_append_cons rfl, cutAt_isBreak_of_not_mem hl, List.singleton_append]
  cases h : cutAt isBreak rest with
  | nil => exact absurd h (cutAt_ne_nil isBreak rest)
  | cons piece pieces => rw [linesOfPieces, lines, h]

/-- No line holds a line feed. -/
theorem not_mem_of_mem_lines {s line : Text} (h : line ∈ lines s) : '\n' ∉ line := by
  induction s using lineInduction with
  | last l hl =>
    rw [lines_of_not_mem hl] at h
    split at h
    · cases h
    · rw [List.mem_singleton.mp h]
      exact hl
  | more l rest hl ih =>
    rw [lines_append_break hl] at h
    rcases List.mem_cons.mp h with rfl | h
    · exact fun hm => hl ((dropReturn_isPrefix l).subset hm)
    · exact ih h

/-- A text that stands on one line: no line feed is in it, and no carriage return at its end, for
that would belong to the end of the line. -/
structure IsLine (l : Text) : Prop where
  no_break : '\n' ∉ l
  no_return : l.getLast? ≠ some '\r'

instance (l : Text) : Decidable (IsLine l) :=
  decidable_of_iff ('\n' ∉ l ∧ l.getLast? ≠ some '\r')
    ⟨fun h => ⟨h.1, h.2⟩, fun h => ⟨h.no_break, h.no_return⟩⟩

/-- A line after a line makes a longer line. -/
theorem IsLine.append {l m : Text} (hl : IsLine l) (hm : IsLine m) : IsLine (l ++ m) where
  no_break := by simp [hl.no_break, hm.no_break]
  no_return := by
    rw [List.getLast?_append]
    cases hlast : m.getLast? with
    | none => exact hl.no_return
    | some c =>
      rw [Option.some_or, ← hlast]
      exact hm.no_return

/-- The lines of a text that begins with ended lines: those, and then those of what follows. -/
theorem lines_terminated {ls : List Text} (h : ∀ l ∈ ls, IsLine l) (t : Text) :
    lines (terminated ls ++ t) = ls ++ lines t := by
  induction ls with
  | nil => rfl
  | cons l ls ih =>
    obtain ⟨hbreak, hreturn⟩ := h l List.mem_cons_self
    rw [terminated_cons, List.append_assoc, List.cons_append, lines_append_break hbreak,
      dropReturn_eq_self hreturn, ih fun m hm => h m (List.mem_cons_of_mem l hm), List.cons_append]

/-! ## 3. Searches from the start of each line -/

theorem lineStarts_of_not_mem {l : Text} (hl : '\n' ∉ l) : lineStarts l = [l] := by
  have hnone : ∀ {s : Text}, '\n' ∉ s → afterBreaks s = [] := by
    intro s hs
    induction s with
    | nil => rfl
    | cons c s ih =>
      have hc : isBreak c = false := isBreak_eq_false_of_mem hs c List.mem_cons_self
      rw [afterBreaks, hc]
      exact ih fun m => hs (List.mem_cons_of_mem c m)
  rw [lineStarts, hnone hl]

theorem lineStarts_append_break {l : Text} (hl : '\n' ∉ l) (rest : Text) :
    lineStarts (l ++ '\n' :: rest) = (l ++ '\n' :: rest) :: lineStarts rest := by
  have hafter : ∀ {s : Text}, '\n' ∉ s → afterBreaks (s ++ '\n' :: rest) = lineStarts rest := by
    intro s hs
    induction s with
    | nil => rfl
    | cons c s ih =>
      have hc : isBreak c = false := isBreak_eq_false_of_mem hs c List.mem_cons_self
      rw [List.cons_append, afterBreaks, hc]
      exact ih fun m => hs (List.mem_cons_of_mem c m)
  rw [lineStarts, hafter hl]

/-- A search that looks at one line only runs through the pieces between line feeds. -/
theorem findSome?_lineStarts {α : Type} {f : Text → Option α}
    (hf : ∀ l rest : Text, '\n' ∉ l → f (l ++ '\n' :: rest) = f l) (s : Text) :
    (lineStarts s).findSome? f = (cutAt isBreak s).findSome? f := by
  induction s using lineInduction with
  | last l hl => rw [lineStarts_of_not_mem hl, cutAt_isBreak_of_not_mem hl]
  | more l rest hl ih =>
    rw [lineStarts_append_break hl, cutAt_append_cons rfl, cutAt_isBreak_of_not_mem hl,
      List.singleton_append, List.findSome?_cons, List.findSome?_cons, hf l rest hl, ih]

theorem restOfLine_of_not_mem {l : Text} (hl : '\n' ∉ l) : restOfLine l = l := by
  rw [restOfLine, List.takeWhile_eq_self_iff]
  intro c hc
  rw [isBreak_eq_false_of_mem hl c hc]
  rfl

theorem restOfLine_append_break {l : Text} (hl : '\n' ∉ l) (rest : Text) :
    restOfLine (l ++ '\n' :: rest) = l := by
  have hall : ∀ c ∈ l, (!isBreak c) = true := by
    intro c hc
    rw [isBreak_eq_false_of_mem hl c hc]
    rfl
  rw [restOfLine, List.takeWhile_append_of_pos hall]
  simp [isBreak]

/-- A prefix without line feeds is one of the line. -/
theorem isPrefixOf?_restOfLine {p : Text} (hp : '\n' ∉ p) (s : Text) :
    p.isPrefixOf? (restOfLine s) = (p.isPrefixOf? s).map restOfLine := by
  induction p generalizing s with
  | nil => rfl
  | cons a p ih =>
    have ha : a ≠ '\n' := fun e => hp (e ▸ List.mem_cons_self)
    have hrest : '\n' ∉ p := fun m => hp (List.mem_cons_of_mem a m)
    cases s with
    | nil => rfl
    | cons c s =>
      by_cases hc : c = '\n'
      · simp [restOfLine, isBreak, List.isPrefixOf?, hc, ha]
      · have hline : restOfLine (c :: s) = c :: restOfLine s := by simp [restOfLine, isBreak, hc]
        rw [hline, List.isPrefixOf?, List.isPrefixOf?]
        by_cases hac : (a == c) = true
        · rw [if_pos hac, if_pos hac, ih hrest]
        · rw [if_neg hac, if_neg hac, Option.map_none]

/-! ## 4. Blocks -/

section Block

variable {marks : Text → Bool}

/-- **A block lies below the first mark**, and it ends at the first blank line or with the text. -/
theorem blockBelow_eq_some_iff {s : Text} {block : List Text} :
    blockBelow marks s = some block ↔
      ∃ before mark after, lines s = before ++ mark :: (block ++ after) ∧
        (∀ l ∈ before, marks l = false) ∧ marks mark = true ∧ (∀ l ∈ block, blank l = false) ∧
        ∀ l, after.head? = some l → blank l = true := by
  constructor
  · intro h
    unfold blockBelow at h
    split at h
    · cases h
    · next mark below hdrop =>
      cases h
      have hhead := List.head?_dropWhile_not (fun line => !marks line) (lines s)
      have htail := List.head?_dropWhile_not (fun line => !blank line) below
      refine ⟨(lines s).takeWhile fun line => !marks line, mark,
        below.dropWhile fun line => !blank line, ?_, fun l hl => ?_, ?_, fun l hl => ?_,
        fun l hl => ?_⟩
      · rw [List.takeWhile_append_dropWhile, ← hdrop, List.takeWhile_append_dropWhile]
      · simpa using List.mem_takeWhile_imp hl
      · simpa [hdrop] using hhead
      · simpa using List.mem_takeWhile_imp hl
      · simpa [hl] using htail
  · rintro ⟨before, mark, after, hs, hbefore, hmark, hblock, hafter⟩
    have hdrop : (lines s).dropWhile (fun line => !marks line) = mark :: (block ++ after) := by
      rw [hs, List.dropWhile_append_of_pos fun l hl => by rw [hbefore l hl]; rfl]
      simp [hmark]
    have htake : (block ++ after).takeWhile (fun line => !blank line) = block := by
      rw [List.takeWhile_append_of_pos fun l hl => by rw [hblock l hl]; rfl]
      cases after with
      | nil => simp
      | cons close after => simp [hafter close rfl]
    rw [blockBelow, hdrop]
    exact congrArg some htake

/-- A block that a blank line ends. -/
theorem blockBelow_eq_some {s mark close : Text} {before block after : List Text}
    (hs : lines s = before ++ mark :: (block ++ close :: after))
    (hbefore : ∀ l ∈ before, marks l = false) (hmark : marks mark = true)
    (hblock : ∀ l ∈ block, blank l = false) (hclose : blank close = true) :
    blockBelow marks s = some block :=
  blockBelow_eq_some_iff.mpr ⟨before, mark, close :: after, hs, hbefore, hmark, hblock,
    fun _ h => Option.some.inj h ▸ hclose⟩

/-- Lines that are no mark are passed over. -/
theorem blockBelow_skip {s t : Text} {before : List Text} (hs : lines s = before ++ lines t)
    (hbefore : ∀ l ∈ before, marks l = false) : blockBelow marks s = blockBelow marks t := by
  rw [blockBelow, blockBelow, hs,
    List.dropWhile_append_of_pos fun l hl => by rw [hbefore l hl]; rfl]

/-- There is a block exactly where there is a mark. -/
theorem blockBelow_eq_none_iff {s : Text} :
    blockBelow marks s = none ↔ ∀ line ∈ lines s, marks line = false := by
  unfold blockBelow
  split
  · next h =>
    have hall := List.dropWhile_eq_nil_iff.mp h
    simp only [true_iff]
    intro line hline
    simpa using hall line hline
  · next mark below h =>
    have hmem : mark ∈ lines s := by
      have hsub := (List.dropWhile_suffix (l := lines s) (fun line => !marks line)).subset
      rw [h] at hsub
      exact hsub List.mem_cons_self
    have hmark : marks mark = true := by
      have hhead := List.head?_dropWhile_not (fun line => !marks line) (lines s)
      rw [h] at hhead
      simpa using hhead
    simp only [reduceCtorEq, false_iff]
    intro hnone
    rw [hnone mark hmem] at hmark
    cases hmark

theorem mem_lines_of_mem_blockBelow {s line : Text} {block : List Text}
    (h : blockBelow marks s = some block) (hline : line ∈ block) : line ∈ lines s := by
  unfold blockBelow at h
  split at h
  · cases h
  · next mark below hdrop =>
    cases h
    have hblock : below.takeWhile (fun line => !blank line) <+: below := List.takeWhile_prefix _
    have hbelow : line ∈ below := hblock.subset hline
    have hsub := (List.dropWhile_suffix (l := lines s) (fun line => !marks line)).subset
    rw [hdrop] at hsub
    exact hsub (List.mem_cons_of_mem mark hbelow)

end Block

/-! ## 5. Carriage returns before line feeds -/

/-- The text with a carriage return before each line feed. -/
def withReturns (s : Text) : Text := s.flatMap fun c => if isBreak c then ['\r', '\n'] else [c]

theorem withReturns_of_not_mem {l : Text} (hl : '\n' ∉ l) : withReturns l = l := by
  induction l with
  | nil => rfl
  | cons c l ih =>
    have hc : isBreak c = false := isBreak_eq_false_of_mem hl c List.mem_cons_self
    have hrest : withReturns l = l := ih fun m => hl (List.mem_cons_of_mem c m)
    rw [withReturns, List.flatMap_cons, hc]
    exact congrArg (c :: ·) hrest

theorem withReturns_append_break {l : Text} (hl : '\n' ∉ l) (rest : Text) :
    withReturns (l ++ '\n' :: rest) = (l ++ ['\r']) ++ '\n' :: withReturns rest := by
  have hhead : withReturns (l ++ '\n' :: rest) = withReturns l ++ withReturns ('\n' :: rest) :=
    List.flatMap_append
  rw [hhead, withReturns_of_not_mem hl, List.append_assoc]
  rfl

/-- Lines end with a line feed or with a carriage return and a line feed alike. -/
theorem lines_withReturns {s : Text} (hs : '\r' ∉ s) : lines (withReturns s) = lines s := by
  induction s using lineInduction with
  | last l hl => rw [withReturns_of_not_mem hl]
  | more l rest hl ih =>
    have hreturn : '\r' ∉ l := fun m => hs (List.mem_append_left _ m)
    have hrest : '\r' ∉ rest := fun m => hs (List.mem_append_right _ (List.mem_cons_of_mem _ m))
    have hended : '\n' ∉ l ++ ['\r'] := by simpa using hl
    rw [withReturns_append_break hl, lines_append_break hended, lines_append_break hl,
      dropReturn_concat, dropReturn_of_not_mem hreturn, ih hrest]

end Manpage.Text
