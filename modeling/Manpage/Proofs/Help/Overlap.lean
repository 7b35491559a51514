/-
# Option lines and listed lines

The options and the listing of sub applets are found in a help text by two searches that know
nothing of each other: each takes the lines below the first line that is its own mark, up to a blank
line.  So the same line may be read twice.

`blocks_overlap_of_parse` says when.  In a text that is accepted the listing never begins among the
options, because the line above it is no option line; the options may begin in the listing, and then
both stop at the same line and all options are listed.  All of this is about positions and not about
lines, for lines may repeat; `blockBelow_eq_some_iff_blockAt` goes from one to the other.
-/
import Mathlib.Order.CompletePartialOrder
import Mathlib.Order.Interval.Set.Disjoint
import Manpage.Proofs.Help.OptionsBlock
import Manpage.Proofs.Help.Parsed

namespace Manpage

namespace Text

/-! ## 1. Blocks by position -/

/-- The first position after another at which there is a blank line or no line at all. -/
structure StopsAt (ls : List Text) (start stop : Nat) : Prop where
  after : start < stop
  within : stop ≤ ls.length
  unbroken : ∀ i < stop, start < i → ∀ line ∈ ls[i]?, blank line = false
  blank : ∀ line ∈ ls[stop]?, blank line = true

instance (ls : List Text) (start stop : Nat) : Decidable (StopsAt ls start stop) :=
  decidable_of_iff
    (start < stop ∧ stop ≤ ls.length ∧
      (∀ i < stop, start < i → ∀ line ∈ ls[i]?, Text.blank line = false) ∧
      ∀ line ∈ ls[stop]?, Text.blank line = true)
    ⟨fun ⟨h₁, h₂, h₃, h₄⟩ => ⟨h₁, h₂, h₃, h₄⟩, fun ⟨h₁, h₂, h₃, h₄⟩ => ⟨h₁, h₂, h₃, h₄⟩⟩

/-- A block reaches from the first line that is a mark to the next stop. -/
structure BlockAt (marks : Text → Bool) (s : Text) (mark stop : Nat) : Prop where
  marked : ∃ line ∈ (lines s)[mark]?, marks line = true
  first : ∀ i < mark, ∀ line ∈ (lines s)[i]?, marks line = false
  stops : StopsAt (lines s) mark stop

instance (marks : Text → Bool) (s : Text) (mark stop : Nat) :
    Decidable (BlockAt marks s mark stop) :=
  decidable_of_iff
    ((∃ line ∈ (lines s)[mark]?, marks line = true) ∧
      (∀ i < mark, ∀ line ∈ (lines s)[i]?, marks line = false) ∧ StopsAt (lines s) mark stop)
    ⟨fun ⟨h₁, h₂, h₃⟩ => ⟨h₁, h₂, h₃⟩, fun ⟨h₁, h₂, h₃⟩ => ⟨h₁, h₂, h₃⟩⟩

/-- The lines after one position and before another. -/
def linesBetween (s : Text) (mark stop : Nat) : List Text :=
  ((lines s).drop (mark + 1)).take (stop - (mark + 1))

theorem mem_linesBetween_iff {s line : Text} {mark stop : Nat} :
    line ∈ linesBetween s mark stop ↔
      ∃ i, mark < i ∧ i < stop ∧ (lines s)[i]? = some line := by
  rw [linesBetween, List.mem_iff_getElem?]
  simp only [List.getElem?_take, List.getElem?_drop, Option.ite_none_right_eq_some]
  constructor
  · rintro ⟨i, hstop, hline⟩
    exact ⟨mark + 1 + i, by omega, by omega, hline⟩
  · rintro ⟨i, hmark, hstop, hline⟩
    have hi : mark + 1 + (i - (mark + 1)) = i := by omega
    exact ⟨i - (mark + 1), by omega, by rwa [hi]⟩

section Block

variable {marks : Text → Bool} {s : Text} {mark stop : Nat}

/-- **A block lies between its mark and its stop.** -/
theorem blockBelow_eq_some_iff_blockAt {block : List Text} :
    blockBelow marks s = some block ↔
      ∃ mark stop, BlockAt marks s mark stop ∧ linesBetween s mark stop = block := by
  rw [blockBelow_eq_some_iff]
  constructor
  · rintro ⟨before, mark, after, hs, hbefore, hmark, hblock, hafter⟩
    have hbelow : (lines s).drop (before.length + 1) = block ++ after := by
      rw [hs, List.append_cons, List.drop_left' (by simp)]
    have hbetween : linesBetween s before.length (before.length + 1 + block.length) = block := by
      rw [linesBetween, hbelow, Nat.add_sub_cancel_left, List.take_left]
    refine ⟨before.length, before.length + 1 + block.length,
      ⟨⟨mark, ?_, hmark⟩, ?_, ?_, ?_, ?_, ?_⟩, hbetween⟩
    · rw [hs]
      simp
    · intro i hi line hline
      rw [hs, List.getElem?_append_left hi] at hline
      exact hbefore line (List.mem_of_getElem? hline)
    · omega
    · rw [hs]
      simp only [List.length_append, List.length_cons]
      omega
    · intro i hstop hmark line hline
      exact hblock line (hbetween ▸ mem_linesBetween_iff.mpr ⟨i, hmark, hstop, hline⟩)
    · intro line hline
      rw [Option.mem_def, ← List.getElem?_drop, hbelow, List.getElem?_append_right (Nat.le_refl _),
        Nat.sub_self, ← List.head?_eq_getElem?] at hline
      exact hafter line hline
  · rintro ⟨mark, stop, ⟨⟨line, hline, hmarked⟩, hfirst, hstops⟩, rfl⟩
    have hafter : mark + 1 ≤ stop := hstops.after
    refine ⟨(lines s).take mark, line, (lines s).drop stop, ?_, ?_, hmarked, ?_, ?_⟩
    · have hrest : linesBetween s mark stop ++ (lines s).drop stop = (lines s).drop (mark + 1) := by
        have hdrop : (lines s).drop stop
            = ((lines s).drop (mark + 1)).drop (stop - (mark + 1)) := by
          rw [List.drop_drop, Nat.add_sub_of_le hafter]
        rw [linesBetween, hdrop, List.take_append_drop]
      obtain ⟨hlt, hget⟩ := List.getElem?_eq_some_iff.mp hline
      rw [hrest, ← hget, ← List.drop_eq_getElem_cons hlt, List.take_append_drop]
    · intro l hl
      obtain ⟨i, hi⟩ := List.mem_iff_getElem?.mp hl
      rw [List.getElem?_take, Option.ite_none_right_eq_some] at hi
      exact hfirst i hi.1 l hi.2
    · intro l hl
      obtain ⟨i, hmark, hstop, hi⟩ := mem_linesBetween_iff.mp hl
      exact hstops.unbroken i hstop hmark l hi
    · intro l hl
      rw [List.head?_drop] at hl
      exact hstops.blank l hl

end Block

/-- A stop that lies after another start is not before its stop. -/
theorem StopsAt.le {ls : List Text} {start stop start' stop' : Nat} (h : StopsAt ls start stop)
    (h' : StopsAt ls start' stop') (hlt : start' < stop) : stop' ≤ stop := by
  by_contra hstop
  have hbefore : stop < stop' := by omega
  have hlength : stop < ls.length := Nat.lt_of_lt_of_le hbefore h'.within
  have hline : ls[stop]? = some ls[stop] := List.getElem?_eq_getElem hlength
  have hblank := h.blank _ hline
  rw [h'.unbroken stop hbefore hlt _ hline] at hblank
  cases hblank

end Text

open Text (BlockAt StopsAt linesBetween)

/-! ## 2. The two marks -/

/-- The words above a listing are no option. -/
theorem SubApplets.not_wellFormed_of_isMarker {line : Text} (h : isMarker line = true) :
    ¬OptionEntry.WellFormed line := by
  have hwords : Text.words line = Text.words marker := by
    rw [← Text.words_trimEnd, eq_of_beq h]
  rw [OptionEntry.not_wellFormed_iff, hwords]
  decide

theorem SubApplets.blank_eq_false_of_isMarker {line : Text} (h : isMarker line = true) :
    Text.blank line = false := by
  rw [← Bool.not_eq_true, ← Text.words_eq_nil_iff, ← Text.words_trimEnd, eq_of_beq h]
  decide

/-- No line is both marks. -/
theorem SubApplets.not_prefix_of_isMarker {line : Text} (h : isMarker line = true) :
    ¬OptionEntry.marker <+: line := by
  intro hprefix
  have hmarker : marker <+: line := eq_of_beq h ▸ Text.dropEndWhile_isPrefix Text.isBlank line
  rcases List.prefix_or_prefix_of_prefix hprefix hmarker with hle | hle <;>
    exact absurd hle (by decide)

namespace Help

/-! ## 3. The two blocks -/

/-- Where the options stand. -/
def OptionsAt (text : Text) (mark stop : Nat) : Prop :=
  BlockAt OptionEntry.marker.isPrefixOf text mark stop

/-- Where the listing of sub applets stands. -/
def ListingAt (text : Text) (mark stop : Nat) : Prop := BlockAt SubApplets.isMarker text mark stop

section Parsed

variable {applet text : Text} {help : Help} (h : parse applet text = .ok help)

include h

theorem options_of_parse :
    (∃ mark stop, OptionsAt text mark stop ∧
        List.Forall₂ OptionEntry.Describes (linesBetween text mark stop) help.options) ∨
      (∀ line ∈ Text.lines text, ¬OptionEntry.marker <+: line) ∧ help.options = [] := by
  obtain ⟨-, hoptions, -⟩ := parse_eq_ok_iff.mp h
  cases hblock : OptionEntry.block? text with
  | none =>
    rw [OptionEntry.listOfHelp, hblock] at hoptions
    refine .inr ⟨fun line hline hprefix => ?_, (Except.ok.inj hoptions).symm⟩
    have hnot := Text.blockBelow_eq_none_iff.mp hblock line hline
    rw [List.isPrefixOf_iff_prefix.mpr hprefix] at hnot
    cases hnot
  | some block =>
    obtain ⟨mark, stop, hat, rfl⟩ := Text.blockBelow_eq_some_iff_blockAt.mp hblock
    exact .inl ⟨mark, stop, hat, (OptionEntry.listOfHelp_eq_ok_iff_describes
      (OptionEntry.optionsBlock_iff.mpr hblock)).mp hoptions⟩

theorem listing_of_parse :
    (∃ mark stop, ListingAt text mark stop ∧
        help.subApplets = some (linesBetween text mark stop)) ∨
      (∀ line ∈ Text.lines text, SubApplets.isMarker line = false) ∧ help.subApplets = none := by
  obtain ⟨-, -, hlisting⟩ := parse_eq_ok_iff.mp h
  cases hblock : SubApplets.listing? text with
  | none => exact .inr ⟨Text.blockBelow_eq_none_iff.mp hblock, hlisting ▸ hblock⟩
  | some block =>
    obtain ⟨mark, stop, hat, rfl⟩ := Text.blockBelow_eq_some_iff_blockAt.mp hblock
    exact .inl ⟨mark, stop, hat, hlisting ▸ hblock⟩

/-- The line above the listing is not among the options. -/
theorem not_isMarker_of_parse {mark stop i : Nat} (hat : OptionsAt text mark stop)
    (hafter : mark < i) (hbefore : i < stop) {line : Text}
    (hline : (Text.lines text)[i]? = some line) : SubApplets.isMarker line = false := by
  obtain ⟨-, hoptions, -⟩ := parse_eq_ok_iff.mp h
  have hblock := OptionEntry.optionsBlock_iff.mpr
    (Text.blockBelow_eq_some_iff_blockAt.mpr ⟨mark, stop, hat, rfl⟩)
  have hwell := (OptionEntry.exists_listOfHelp_iff hblock).mp ⟨_, hoptions⟩ line
    (Text.mem_linesBetween_iff.mpr ⟨i, hafter, hbefore, hline⟩)
  rw [← Bool.not_eq_true]
  exact fun hmarker => SubApplets.not_wellFormed_of_isMarker hmarker hwell

/-- **The listing does not begin among the options.** -/
theorem listing_after_options {o oStop m mStop : Nat} (ho : OptionsAt text o oStop)
    (hm : ListingAt text m mStop) (hlt : o < m) : oStop < m := by
  obtain ⟨line, hline, hmarked⟩ := hm.marked
  by_contra hle
  rcases Nat.lt_or_ge m oStop with hinside | hout
  · rw [not_isMarker_of_parse h ho hlt hinside hline] at hmarked
    cases hmarked
  · obtain rfl : m = oStop := by omega
    have hblank := ho.stops.blank line hline
    rw [SubApplets.blank_eq_false_of_isMarker hmarked] at hblank
    cases hblank

/-- **An option line is also a listed line only where the options begin in the listing.**  In a text
that is accepted the line above the listing comes behind the line above the options only if it comes
behind the blank line that ends them.  If it comes first, the two blocks are apart unless the line
above the options is listed itself; then both stop at the same line, and the options are what is
listed below it.  So they share a line only where no blank line ends the listing before the line
above the options. -/
theorem blocks_overlap_of_parse :
    ((∃ mark stop, OptionsAt text mark stop ∧
          List.Forall₂ OptionEntry.Describes (linesBetween text mark stop) help.options) ∨
        (∀ line ∈ Text.lines text, ¬OptionEntry.marker <+: line) ∧ help.options = []) ∧
      ((∃ mark stop, ListingAt text mark stop ∧
          help.subApplets = some (linesBetween text mark stop)) ∨
        (∀ line ∈ Text.lines text, SubApplets.isMarker line = false) ∧ help.subApplets = none) ∧
      ∀ o oStop m mStop, OptionsAt text o oStop → ListingAt text m mStop →
        m ≠ o ∧
        (o < m → oStop < m ∧ Disjoint (Set.Ioo o oStop) (Set.Ioo m mStop)) ∧
        (m < o → o ∉ Set.Ioo m mStop → Disjoint (Set.Ioo o oStop) (Set.Ioo m mStop)) ∧
        (m < o → o ∈ Set.Ioo m mStop →
          oStop = mStop ∧ Set.Ioo o oStop = {i ∈ Set.Ioo m mStop | o < i}) ∧
        ((Set.Ioo o oStop ∩ Set.Ioo m mStop).Nonempty →
          m < o ∧ ∀ i < o, m < i → ∀ line ∈ (Text.lines text)[i]?, Text.blank line = false) := by
  refine ⟨options_of_parse h, listing_of_parse h, fun o oStop m mStop ho hm => ?_⟩
  have hne : m ≠ o := by
    rintro rfl
    obtain ⟨line, hline, hmarked⟩ := ho.marked
    obtain ⟨line', hline', hmarked'⟩ := hm.marked
    obtain rfl : line = line' := Option.mem_unique hline hline'
    exact SubApplets.not_prefix_of_isMarker hmarked' (List.isPrefixOf_iff_prefix.mp hmarked)
  have hbehind : o < m → Disjoint (Set.Ioo o oStop) (Set.Ioo m mStop) := fun hlt =>
    have hstop := listing_after_options h ho hm hlt
    Set.disjoint_left.mpr fun i hi hi' => by
      simp only [Set.mem_Ioo] at hi hi'
      omega
  have hapart : m < o → o ∉ Set.Ioo m mStop → Disjoint (Set.Ioo o oStop) (Set.Ioo m mStop) :=
    fun hlt hout => Set.disjoint_left.mpr fun i hi hi' => by
      simp only [Set.mem_Ioo] at hout hi hi'
      omega
  refine ⟨hne, fun hlt => ⟨listing_after_options h ho hm hlt, hbehind hlt⟩, hapart,
    fun hlt hin => ?_, fun hshared => ?_⟩
  · -- each stop lies behind the other mark, so neither lies before the other stop
    have hstop : oStop = mStop :=
      Nat.le_antisymm (hm.stops.le ho.stops hin.2)
        (ho.stops.le hm.stops (Nat.lt_trans hlt ho.stops.after))
    refine ⟨hstop, Set.ext fun i => ?_⟩
    simp only [Set.mem_ofPred_eq, Set.mem_Ioo]
    omega
  · have hnot := Set.not_disjoint_iff_nonempty_inter.mpr hshared
    have hlt : m < o := by
      by_contra hge
      exact hnot (hbehind (by omega))
    have hin : o ∈ Set.Ioo m mStop := by_contra fun hout => hnot (hapart hlt hout)
    exact ⟨hlt, fun i hi => hm.stops.unbroken i (Nat.lt_trans hi hin.2)⟩

end Parsed

/-- A help text in which the options begin in the listing. -/
def runTogether : Text :=
  Text.unlines <|
    ["Usage: q <applet> : a suite", "", "Currently defined applets: ", " q : itself",
      "Options: -[Ch]", " -C * no color", " -h, --help * this", "", "Options: none"].map
    String.toList

/-- Two option lines that are listed as sub applets too. -/
theorem blocks_overlap_of_parse_runTogether :
    parse "q".toList runTogether =
        .ok ⟨⟨"<applet>".toList, "a suite".toList⟩,
          [⟨["-C".toList], false, "no color".toList⟩,
            ⟨["-h".toList, "--help".toList], false, "this".toList⟩],
          some [" q : itself".toList, "Options: -[Ch]".toList, " -C * no color".toList,
            " -h, --help * this".toList]⟩ ∧
      OptionsAt runTogether 4 7 ∧ ListingAt runTogether 2 7 ∧
      Set.Ioo 4 7 = {i ∈ Set.Ioo 2 7 | 4 < i} := by
  have hparse : parse "q".toList runTogether =
      .ok ⟨⟨"<applet>".toList, "a suite".toList⟩,
        [⟨["-C".toList], false, "no color".toList⟩,
          ⟨["-h".toList, "--help".toList], false, "this".toList⟩],
        some [" q : itself".toList, "Options: -[Ch]".toList, " -C * no color".toList,
          " -h, --help * this".toList]⟩ := by decide +kernel
  have hoptions : OptionsAt runTogether 4 7 := by
    unfold OptionsAt
    decide +kernel
  have hlisting : ListingAt runTogether 2 7 := by
    unfold ListingAt
    decide +kernel
  obtain ⟨-, -, hblocks⟩ := blocks_overlap_of_parse hparse
  obtain ⟨-, -, -, hinside, -⟩ := hblocks 4 7 2 7 hoptions hlisting
  exact ⟨hparse, hoptions, hlisting, (hinside (by decide) (by simp)).2⟩

end Help

end Manpage
