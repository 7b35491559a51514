/-
# The options block and its grammar

The options of a help text stand on the lines below the first one that begins with `Options: `, up to
a blank line (`OptionsBlock`).  Each of these lines is written from a flag, perhaps a second flag
that begins with a hyphen, perhaps the word `<arg>`, the mark `*` and any words after it
(`WellFormed`).  There is one way only to tell these parts, although the same word may be a flag in
one line and the mark in another (`OptionWords.toList_injective`).

`listOfHelp_grammar` proves that the options are read exactly from such blocks, each line giving the
option that it describes, and that otherwise the first line that is not well formed is quoted.
-/
import Manpage.Proofs.Help.OptionLine
import Manpage.Proofs.Text.Lines

namespace Manpage

/-! ## 1. The parts of an option line -/

/-- **The parts of an option line are told by its words.** -/
theorem OptionWords.toList_injective : Function.Injective OptionWords.toList := by
  intro w w' h
  rw [toList, toList, flags, flags, List.cons_append, List.cons_append, List.cons_append,
    List.cons_append] at h
  obtain ⟨hfirst, hrest⟩ := List.cons.inj h
  have halias := congrArg OptionEntry.takeAlias hrest
  rw [OptionEntry.takeAlias_toList, OptionEntry.takeAlias_toList] at halias
  obtain ⟨hsecond, hleft⟩ := Prod.mk.inj halias
  have hargument := congrArg OptionEntry.takeArgument hleft
  rw [OptionEntry.takeArgument_toList, OptionEntry.takeArgument_toList] at hargument
  obtain ⟨htakes, hmarked⟩ := Prod.mk.inj hargument
  obtain ⟨first, second, takes, description, hhyphen⟩ := w
  obtain ⟨first', second', takes', description', hhyphen'⟩ := w'
  obtain rfl : first = first' := hfirst
  obtain rfl : second = second' := by
    cases second <;> cases second' <;> simp_all
  obtain rfl : takes = takes' := htakes
  obtain rfl : description = description' := (List.cons.inj hmarked).2
  rfl

namespace OptionEntry

/-- A flag is its word without the commas at the end. -/
structure IsFlagOf (word flag : Text) : Prop where
  commas : ∃ n, word = flag ++ List.replicate n ','
  all : flag.getLast? ≠ some ','

theorem isFlagOf_iff {word flag : Text} : IsFlagOf word flag ↔ flagOfWord word = flag := by
  rw [flagOfWord, Text.dropEndWhile_eq_iff]
  constructor
  · rintro ⟨⟨n, hword⟩, hall⟩
    refine ⟨⟨_, hword, fun c hc => by simp [List.eq_of_mem_replicate hc]⟩, fun c hc => ?_⟩
    have hne : c ≠ ',' := fun e => hall (e ▸ hc)
    simpa using hne
  · rintro ⟨⟨tail, hword, htail⟩, hlast⟩
    refine ⟨⟨tail.length, ?_⟩, fun hcomma => by simpa using hlast ',' hcomma⟩
    rw [hword, ← List.eq_replicate_length.mpr fun c hc => by simpa using htail c hc]

/-! ## 2. Option lines -/

/-- A line that is written from the words of an option line. -/
def WellFormed (line : Text) : Prop := ∃ w : OptionWords, Text.Spaced w.toList line

/-- What a line says of an option: its flags, whether it takes an argument, and the words of its
description with one space between them. -/
def Describes (line : Text) (entry : OptionEntry) : Prop :=
  ∃ w : OptionWords, Text.Spaced w.toList line ∧ List.Forall₂ IsFlagOf w.flags entry.flags ∧
    (entry.takesArgument = true ↔ w.argument ≠ []) ∧
    entry.description = Text.join [' '] w.description

theorem wellFormed_iff {line : Text} :
    WellFormed line ↔ ∃ entry, ofWords? (Text.words line) = some entry := by
  simp only [WellFormed, ← Text.words_eq_iff, ofWords?_eq_some_iff]
  constructor
  · rintro ⟨w, hw⟩
    exact ⟨w.entry, w, hw.symm, rfl⟩
  · rintro ⟨entry, w, hw, -⟩
    exact ⟨w, hw.symm⟩

theorem describes_iff {line : Text} {entry : OptionEntry} :
    Describes line entry ↔ ofWords? (Text.words line) = some entry := by
  rw [ofWords?_eq_some_iff]
  refine exists_congr fun w => and_congr (Text.words_eq_iff.symm.trans eq_comm) ?_
  obtain ⟨flags, takesArgument, description⟩ := entry
  have hargument : (takesArgument = true ↔ w.argument ≠ []) ↔ w.takesArgument = takesArgument := by
    cases hw : w.takesArgument <;> cases takesArgument <;> simp [OptionWords.argument, hw]
  rw [hargument, OptionWords.entry, OptionEntry.mk.injEq]
  refine and_congr ?_ (and_congr_right fun _ => eq_comm)
  rw [← List.forall₂_eq_eq_eq, List.forall₂_map_left_iff]
  exact ⟨List.Forall₂.imp fun _ _ => isFlagOf_iff.mp, List.Forall₂.imp fun _ _ => isFlagOf_iff.mpr⟩

/-! ## 3. The block -/

/-- The lines of the options block: those below the first line that begins with the marker, up to a
blank line or the end of the text. -/
def OptionsBlock (help : Text) (block : List Text) : Prop :=
  ∃ before mark after, Text.lines help = before ++ mark :: (block ++ after) ∧
    (∀ line ∈ before, ¬marker <+: line) ∧ marker <+: mark ∧
    (∀ line ∈ block, Text.blank line = false) ∧
    ∀ line, after.head? = some line → Text.blank line = true

theorem optionsBlock_iff {help : Text} {block : List Text} :
    OptionsBlock help block ↔ block? help = some block := by
  rw [block?, Text.blockBelow_eq_some_iff, OptionsBlock]
  simp only [List.isPrefixOf_iff_prefix, ← Bool.not_eq_true]

/-- Without the marker there is no block, and below it there is one block. -/
theorem no_marker_or_optionsBlock (help : Text) :
    (block? help = none ∧ ∀ line ∈ Text.lines help, ¬marker <+: line) ∨
      ∃! block, OptionsBlock help block := by
  cases hblock : block? help with
  | none =>
    refine .inl ⟨rfl, fun line hline hmarker => ?_⟩
    have hnone := Text.blockBelow_eq_none_iff.mp hblock line hline
    rw [List.isPrefixOf_iff_prefix.mpr hmarker] at hnone
    cases hnone
  | some block =>
    refine .inr ⟨block, optionsBlock_iff.mpr hblock, fun other hother => ?_⟩
    have hfound := optionsBlock_iff.mp hother
    rw [hblock] at hfound
    exact (Option.some.inj hfound).symm

/-! ## 4. Reading the block -/

section Block

variable {applet help : Text} {block : List Text}

theorem listOfHelp_eq_mapM (hblock : OptionsBlock help block) :
    listOfHelp applet help = block.mapM (ofLine applet) := by
  rw [listOfHelp, optionsBlock_iff.mp hblock]
  rfl

theorem not_wellFormed_iff {line : Text} :
    ¬WellFormed line ↔ ofWords? (Text.words line) = none := by
  rw [wellFormed_iff, ← Option.isSome_iff_exists, Option.not_isSome_iff_eq_none]

theorem wellFormed_iff_ofLine {line : Text} :
    WellFormed line ↔ ∃ entry, ofLine applet line = .ok entry := by
  simp only [wellFormed_iff, ofLine_eq_ok_iff]

/-- The options are those that the lines describe, one for each in order. -/
theorem listOfHelp_eq_ok_iff_describes (hblock : OptionsBlock help block)
    {entries : List OptionEntry} :
    listOfHelp applet help = .ok entries ↔ List.Forall₂ Describes block entries := by
  rw [listOfHelp_eq_mapM hblock, mapM_eq_ok_iff]
  have hline : ∀ line entry, ofLine applet line = .ok entry ↔ Describes line entry :=
    fun line entry => ofLine_eq_ok_iff.trans describes_iff.symm
  simp only [hline]

/-- The options are read where nothing but well-formed lines are in the block. -/
theorem exists_listOfHelp_iff (hblock : OptionsBlock help block) :
    (∃ entries, listOfHelp applet help = .ok entries) ↔ ∀ line ∈ block, WellFormed line := by
  rw [listOfHelp_eq_mapM hblock, exists_mapM_eq_ok_iff]
  exact forall₂_congr fun line _ => wellFormed_iff_ofLine.symm

/-- The first line that is not well formed is quoted. -/
theorem listOfHelp_eq_error_iff (hblock : OptionsBlock help block) {m : Malformed} :
    listOfHelp applet help = .error m ↔
      ∃ good line rest, block = good ++ line :: rest ∧ (∀ l ∈ good, WellFormed l) ∧
        ¬WellFormed line ∧ m = ⟨applet, line, .noDescriptionMark⟩ := by
  rw [listOfHelp_eq_mapM hblock, mapM_eq_error_iff]
  obtain ⟨-, -, -, -, -, -, hnonblank, -⟩ := hblock
  refine exists_congr fun good => exists_congr fun line => exists_congr fun rest =>
    and_congr_right fun hsplit => and_congr ?_ ?_
  · exact forall₂_congr fun l _ => wellFormed_iff_ofLine.symm
  · have hline : Text.blank line = false := hnonblank line (by simp [hsplit])
    rw [ofLine_eq_error_iff hline, not_wellFormed_iff]

end Block

/-- The parts of an option line are there in one way. -/
theorem WellFormed.existsUnique {line : Text} (h : WellFormed line) :
    ∃! w : OptionWords, Text.Spaced w.toList line := by
  obtain ⟨w, hw⟩ := h
  refine ⟨w, hw, fun other hother => OptionWords.toList_injective ?_⟩
  exact (Text.words_eq_iff.mpr hother).symm.trans (Text.words_eq_iff.mpr hw)

/-- **The options are read exactly from blocks of well-formed lines.**  A text without the marker has
none.  In the block below the marker each line gives the option that it describes, and the first
line that is not well formed is quoted: it lacks the mark, for a line of the block has words. -/
theorem listOfHelp_grammar (applet help : Text) :
    (((∀ line ∈ Text.lines help, ¬marker <+: line) ∧ listOfHelp applet help = .ok []) ∨
        ∃! block, OptionsBlock help block) ∧
      (∀ line, WellFormed line → ∃! w : OptionWords, Text.Spaced w.toList line) ∧
      (∀ block, OptionsBlock help block →
        ((∃ entries, listOfHelp applet help = .ok entries) ↔ ∀ line ∈ block, WellFormed line) ∧
        (∀ entries, listOfHelp applet help = .ok entries ↔
          List.Forall₂ Describes block entries) ∧
        ∀ m, listOfHelp applet help = .error m ↔
          ∃ good line rest, block = good ++ line :: rest ∧ (∀ l ∈ good, WellFormed l) ∧
            ¬WellFormed line ∧ m = ⟨applet, line, .noDescriptionMark⟩) ∧
      Departure.noDescriptionMark.wording = "missing \x60*\x60 before description".toList := by
  refine ⟨?_, fun line => WellFormed.existsUnique, fun block hblock => ?_, rfl⟩
  · refine (no_marker_or_optionsBlock help).imp (fun ⟨hnone, hlines⟩ => ⟨hlines, ?_⟩) id
    rw [listOfHelp, hnone]
    rfl
  · exact ⟨exists_listOfHelp_iff hblock, fun _ => listOfHelp_eq_ok_iff_describes hblock,
      fun _ => listOfHelp_eq_error_iff hblock⟩

/-- Option lines in which a flag is the mark, the argument word or commas alone, and hyphens and a
further mark stand in a description. -/
def crowdedLines : List Text :=
  ["* -a,, <arg> * - * b".toList, "\t<arg>  <arg> *".toList, ",, *  d\u00a0-- ".toList]

/-- The lines above in a help text: a second marker, a blank line and a further line follow. -/
def crowdedHelp : Text :=
  "x\r\nOptions: see\r\n* -a,, <arg> * - * b\n\t<arg>  <arg> *\n,, *  d\u00a0-- \r\n \t\nOptions: -x".toList

/-- A line without a word for the mark, the star of which belongs to the flag. -/
def gluedHelp : Text := "Options: \n-a * b\n-f* d\n-g".toList

/-- Words that are flags, argument and marks in turn, and a line that is refused. -/
theorem listOfHelp_grammar_crowded :
    OptionsBlock crowdedHelp crowdedLines ∧ (∀ line ∈ crowdedLines, WellFormed line) ∧
      List.Forall₂ Describes crowdedLines
        [⟨["*".toList, "-a".toList], true, "- * b".toList⟩, ⟨["<arg>".toList], true, []⟩,
          ⟨[[]], false, "d --".toList⟩] ∧
      ∃ good line rest, ["-a * b".toList, "-f* d".toList, "-g".toList] = good ++ line :: rest ∧
        (∀ l ∈ good, WellFormed l) ∧ ¬WellFormed line ∧ line = "-f* d".toList := by
  have hblock : OptionsBlock crowdedHelp crowdedLines := optionsBlock_iff.mpr (by decide)
  have hread : listOfHelp "ls".toList crowdedHelp
      = .ok [⟨["*".toList, "-a".toList], true, "- * b".toList⟩, ⟨["<arg>".toList], true, []⟩,
          ⟨[[]], false, "d --".toList⟩] := by decide
  have hglued : OptionsBlock gluedHelp ["-a * b".toList, "-f* d".toList, "-g".toList] :=
    optionsBlock_iff.mpr (by decide)
  have hrefused : listOfHelp "ls".toList gluedHelp
      = .error ⟨"ls".toList, "-f* d".toList, .noDescriptionMark⟩ := by decide
  obtain ⟨-, -, hcrowded, -⟩ := listOfHelp_grammar "ls".toList crowdedHelp
  obtain ⟨hall, hok, -⟩ := hcrowded _ hblock
  obtain ⟨-, -, hgrammar, -⟩ := listOfHelp_grammar "ls".toList gluedHelp
  obtain ⟨good, line, rest, hsplit, hgood, hline, hm⟩ := ((hgrammar _ hglued).2.2 _).mp hrefused
  exact ⟨hblock, hall.mp ⟨_, hread⟩, (hok _).mp hread, good, line, rest, hsplit, hgood, hline,
    (Malformed.mk.inj hm).2.1.symm⟩

end OptionEntry

end Manpage
