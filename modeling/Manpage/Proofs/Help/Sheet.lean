/-
# Well-formed help texts

A sheet is a help text written the way the format expects it: a banner, the usage line, perhaps a
listing of sub applets, the options, and whatever comes after them.  `Sheet` carries what makes it
well formed, and `Sheet.text` is the text.  `parse_text` proves that such a text is read as exactly
what the sheet says.

The usage line, the options and the listing are sought in the whole text, each by its own marker.
The work is to show that no marker is met before its place: not in the banner, not in a block that
belongs to another marker, and not in an option line, whose words can never be those of the line
that announces a listing (`isMarker_text`).
-/
import Manpage.Proofs.Help.Parsed

namespace Manpage

/-! ## 1. The parts of a sheet -/

/-- A flag as it stands on an option line, with commas after it. -/
structure FlagToken where
  name : Text
  commas : Nat
  name_end : name.getLast? ≠ some ','

/-- The flag with its commas. -/
def FlagToken.text (token : FlagToken) : Text := token.name ++ List.replicate token.commas ','

/-- A line that describes an option: a flag, perhaps a second one that begins with a hyphen,
perhaps the argument word, the mark, and any words; with any white space between and around
them. -/
structure OptionLine where
  first : FlagToken
  second : Option FlagToken
  takesArgument : Bool
  description : List Text
  text : Text
  second_hyphen : ∀ token, second = some token → token.name.head? = some '-'
  spaced : Text.Spaced
    (first.text :: (second.map FlagToken.text).toList
      ++ (if takesArgument then [OptionEntry.argumentWord] else [])
      ++ OptionEntry.descriptionMark :: description) text
  is_line : Text.IsLine text

/-- The option that the line describes. -/
def OptionLine.entry (line : OptionLine) : OptionEntry where
  flags := line.first.name :: (line.second.map FlagToken.name).toList
  takesArgument := line.takesArgument
  description := Text.join [' '] line.description

/-- The lines below the line that announces a listing, and the blank line that ends them. -/
structure ListingBlock where
  lines : List Text
  close : Text
  is_line : ∀ l ∈ lines, Text.IsLine l
  not_blank : ∀ l ∈ lines, Text.blank l = false
  no_options : ∀ l ∈ lines, ¬ OptionEntry.marker <+: l
  close_line : Text.IsLine close
  close_blank : Text.blank close = true

/-- A well-formed help text in its parts, from top to bottom. -/
structure Sheet where
  /-- Lines before the usage line; none of them is mistaken for a marker. -/
  banner : List Text
  synopsis : Text
  summary : Text
  /-- The blank line below the usage line. -/
  below : Text
  listing : Option ListingBlock
  /-- What stands on the line above the options, after the marker. -/
  hint : Text
  options : List OptionLine
  /-- The blank line below the options. -/
  close : Text
  /-- Whatever comes after that, in any form. -/
  rest : Text
  banner_line : ∀ l ∈ banner, Text.IsLine l
  banner_no_usage : ∀ l ∈ banner, ¬ Usage.marker <+: l
  banner_no_options : ∀ l ∈ banner, ¬ OptionEntry.marker <+: l
  banner_no_listing : ∀ l ∈ banner, Text.trimEnd l ≠ SubApplets.marker
  synopsis_line : '\n' ∉ synopsis
  summary_line : '\n' ∉ summary
  summary_end : ∀ c, summary.getLast? = some c → Text.isBlank c = false
  /-- The separator is found before the summary and nowhere later. -/
  one_separator : ∀ before after,
    Usage.separator ++ summary = before ++ Usage.separator ++ after → before = []
  below_line : Text.IsLine below
  below_blank : Text.blank below = true
  hint_line : Text.IsLine hint
  close_line : Text.IsLine close
  close_blank : Text.blank close = true

namespace Sheet

/-- The usage line for an applet. -/
def usageLine (sheet : Sheet) (applet : Text) : Text :=
  Usage.marker ++ applet ++ [' '] ++ sheet.synopsis ++ Usage.separator ++ sheet.summary

/-- The lines of the listing with the line that announces them, if there is a listing. -/
def listingLines (sheet : Sheet) : List Text :=
  match sheet.listing with
  | none => []
  | some block => SubApplets.marker :: (block.lines ++ [block.close])

/-- All lines up to the blank line below the options. -/
def lines (sheet : Sheet) (applet : Text) : List Text :=
  sheet.banner ++ sheet.usageLine applet :: sheet.below :: (sheet.listingLines
    ++ (OptionEntry.marker ++ sheet.hint) :: (sheet.options.map OptionLine.text ++ [sheet.close]))

/-- The help text: each line ended by a line feed, and then the rest. -/
def text (sheet : Sheet) (applet : Text) : Text :=
  Text.terminated (sheet.lines applet) ++ sheet.rest

end Sheet

/-! ## 2. Lines that are no markers -/

/-- What does not begin with the marker is not the marker. -/
theorem SubApplets.isMarker_eq_false {l : Text} (h : ¬ marker <+: l) : isMarker l = false := by
  rw [isMarker, beq_eq_false_iff_ne]
  intro heq
  exact h (heq ▸ Text.dropEndWhile_isPrefix _ l)

theorem SubApplets.isMarker_of_head? {l : Text} {c : Char} (hl : l.head? = some c)
    (hc : 'C' ≠ c) : isMarker l = false :=
  isMarker_eq_false (Text.not_prefix_of_head? (show marker.head? = some 'C' by decide) hl hc)

theorem SubApplets.isMarker_of_blank {l : Text} (hl : Text.blank l = true) :
    isMarker l = false :=
  isMarker_eq_false
    (Text.not_prefix_of_blank hl (show 'C' ∈ marker by decide) (by decide))

namespace FlagToken

/-- Reading a flag takes its commas off and nothing else. -/
theorem flagOfWord_text (token : FlagToken) : OptionEntry.flagOfWord token.text = token.name := by
  rw [OptionEntry.flagOfWord, text, Text.dropEndWhile_append_of_pos _ (by simp)]
  refine Text.dropEndWhile_eq_self fun c hc => ?_
  have hne : c ≠ ',' := fun e => token.name_end (e ▸ hc)
  simpa using hne

theorem head?_text {token : FlagToken} (h : token.name.head? = some '-') :
    token.text.head? = some '-' :=
  Text.head?_append_of_eq_some h _

end FlagToken

namespace OptionLine

/-- The words of the line. -/
def words (line : OptionLine) : OptionWords where
  first := line.first.text
  second := line.second.map FlagToken.text
  takesArgument := line.takesArgument
  description := line.description
  second_hyphen := by
    intro word hword
    obtain ⟨token, htoken, rfl⟩ := Option.map_eq_some_iff.mp hword
    exact FlagToken.head?_text (line.second_hyphen token htoken)

theorem words_text (line : OptionLine) : Text.words line.text = line.words.toList :=
  Text.words_of_spaced line.spaced

theorem entry_words (line : OptionLine) : line.words.entry = line.entry := by
  have hsecond : (line.second.map FlagToken.text).toList.map OptionEntry.flagOfWord
      = (line.second.map FlagToken.name).toList := by
    cases line.second with
    | none => rfl
    | some token => exact congrArg (fun name => [name]) token.flagOfWord_text
  rw [OptionWords.entry, OptionWords.flags, words, List.map_cons, hsecond,
    FlagToken.flagOfWord_text, entry]

/-- An option line is read as the option that it describes. -/
theorem ofWords?_words_text (line : OptionLine) :
    OptionEntry.ofWords? (Text.words line.text) = some line.entry := by
  rw [words_text, OptionEntry.ofWords?_toList, entry_words]

/-- **An option line never announces a listing**: the words of that announcement describe no
option. -/
theorem isMarker_text (line : OptionLine) : SubApplets.isMarker line.text = false := by
  rw [SubApplets.isMarker, beq_eq_false_iff_ne]
  intro heq
  have hwords : Text.words line.text = Text.words SubApplets.marker := by
    rw [← heq, Text.words_trimEnd]
  have hnone : OptionEntry.ofWords? (Text.words SubApplets.marker) = none := by decide
  rw [← hwords, ofWords?_words_text] at hnone
  cases hnone

/-- An option line is not blank, for there is a word on it. -/
theorem blank_text (line : OptionLine) : Text.blank line.text = false := by
  cases hblank : Text.blank line.text with
  | false => rfl
  | true =>
    have hwords := Text.words_blank_append hblank []
    rw [List.append_nil, words_text] at hwords
    cases hwords

end OptionLine

namespace Sheet

variable {applet : Text}

/-! ## 3. The lines of a sheet -/

theorem is_line_of_mem_listingLines (sheet : Sheet) {l : Text} (hl : l ∈ sheet.listingLines) :
    Text.IsLine l := by
  unfold listingLines at hl
  cases hlisting : sheet.listing with
  | none =>
    rw [hlisting] at hl
    cases hl
  | some block =>
    rw [hlisting] at hl
    rcases List.mem_cons.mp hl with rfl | hl
    · exact ⟨by decide, by decide⟩
    · rcases List.mem_append.mp hl with hl | hl
      · exact block.is_line l hl
      · rw [List.mem_singleton.mp hl]
        exact block.close_line

theorem is_line_usageLine (sheet : Sheet) (ha : '\n' ∉ applet) :
    Text.IsLine (sheet.usageLine applet) := by
  have hmarker : '\n' ∉ Usage.marker := by decide
  have hseparator : '\n' ∉ Usage.separator := by decide
  have hlast : Usage.separator.getLast? = some ' ' := by decide
  refine Text.IsLine.append ⟨?_, ?_⟩ ⟨sheet.summary_line, ?_⟩
  · simp [hmarker, hseparator, ha, sheet.synopsis_line]
  · rw [List.getLast?_append, hlast, Option.some_or]
    decide
  · intro hreturn
    exact absurd (sheet.summary_end '\r' hreturn) (by decide)

theorem is_line_header (sheet : Sheet) : Text.IsLine (OptionEntry.marker ++ sheet.hint) :=
  Text.IsLine.append ⟨by decide, by decide⟩ sheet.hint_line

theorem is_line_of_mem_lines (sheet : Sheet) (ha : '\n' ∉ applet) :
    ∀ l ∈ sheet.lines applet, Text.IsLine l := by
  intro l hl
  simp only [lines, List.mem_append, List.mem_cons, List.mem_map, List.not_mem_nil, or_false] at hl
  rcases hl with hbanner | rfl | rfl | hlisting | rfl | ⟨option, -, rfl⟩ | rfl
  · exact sheet.banner_line l hbanner
  · exact sheet.is_line_usageLine ha
  · exact sheet.below_line
  · exact sheet.is_line_of_mem_listingLines hlisting
  · exact sheet.is_line_header
  · exact option.is_line
  · exact sheet.close_line

/-- Reading the lines of the text gives the lines that it was written from. -/
theorem lines_text (sheet : Sheet) (ha : '\n' ∉ applet) :
    Text.lines (sheet.text applet) = sheet.lines applet ++ Text.lines sheet.rest :=
  Text.lines_terminated (sheet.is_line_of_mem_lines ha) sheet.rest

/-- So do the pieces between line feeds. -/
theorem cutAt_text (sheet : Sheet) (ha : '\n' ∉ applet) :
    Text.cutAt Text.isBreak (sheet.text applet)
      = sheet.lines applet ++ Text.cutAt Text.isBreak sheet.rest := by
  have hbreak : ∀ l ∈ sheet.lines applet, '\n' ∉ l :=
    fun l hl => (sheet.is_line_of_mem_lines ha l hl).no_break
  rw [text, Text.cutAt_terminated, Text.flatMap_cutAt_isBreak hbreak]

/-! ## 4. Reading a sheet -/

/-- The separator before the summary is the last one on the usage line. -/
theorem cutAtLast_separator (sheet : Sheet) :
    Text.cutAtLast Usage.separator (sheet.synopsis ++ Usage.separator ++ sheet.summary)
      = some (sheet.synopsis, sheet.summary) := by
  refine (Text.cutAtLast_eq_some_iff Usage.separator_ne_nil).mpr ⟨rfl, ?_⟩
  intro before after h
  rw [List.append_assoc, List.append_assoc] at h
  rcases List.append_eq_append_iff.mp h with ⟨between, hbefore, hrest⟩ | ⟨between, hsynopsis, -⟩
  · rw [← List.append_assoc] at hrest
    rw [hbefore, sheet.one_separator between after hrest, List.append_nil]
  · rw [hsynopsis, List.length_append]
    exact Nat.le_add_right _ _

theorem atLineStart?_usageLine (sheet : Sheet) :
    Usage.atLineStart? applet (sheet.usageLine applet) = some ⟨sheet.synopsis, sheet.summary⟩ := by
  have hopening : (Usage.opening applet).isPrefixOf? (sheet.usageLine applet)
      = some (sheet.synopsis ++ Usage.separator ++ sheet.summary) :=
    Text.isPrefixOf?_eq_some_iff.mpr (by simp [usageLine, Usage.opening])
  have hbreak : '\n' ∉ sheet.synopsis ++ Usage.separator ++ sheet.summary := by
    have hseparator : '\n' ∉ Usage.separator := by decide
    simp [hseparator, sheet.synopsis_line, sheet.summary_line]
  have hsummary : sheet.summary = Text.trimEnd sheet.summary :=
    (Text.dropEndWhile_eq_self sheet.summary_end).symm
  rw [Usage.atLineStart?_eq_bind, hopening, Option.bind_some, Text.restOfLine_of_not_mem hbreak,
    Usage.ofRest?_eq_some_iff]
  exact ⟨sheet.summary, sheet.cutAtLast_separator, hsummary⟩

/-- The usage that is found is the one of the usage line; nothing in the banner gives one. -/
theorem find?_text (sheet : Sheet) (ha : '\n' ∉ applet) :
    Usage.find? applet (sheet.text applet) = some ⟨sheet.synopsis, sheet.summary⟩ := by
  have hbanner : sheet.banner.findSome? (Usage.atLineStart? applet) = none :=
    List.findSome?_eq_none_iff.mpr fun l hl =>
      Usage.atLineStart?_eq_none (sheet.banner_no_usage l hl)
  rw [Usage.find?_eq_findSome? ha, sheet.cutAt_text ha, lines, List.findSome?_append,
    List.findSome?_append, hbanner, Option.none_or, List.findSome?_cons, atLineStart?_usageLine]
  rfl

theorem head?_usageLine (sheet : Sheet) : (sheet.usageLine applet).head? = some 'U' := by
  have hmarker : Usage.marker.head? = some 'U' := by decide
  simp [usageLine, hmarker]

/-- No line above the options looks like the line that announces them. -/
theorem no_options_above (sheet : Sheet) :
    ∀ l ∈ sheet.banner ++ sheet.usageLine applet :: sheet.below :: sheet.listingLines,
      OptionEntry.marker.isPrefixOf l = false := by
  have hblank : ∀ l : Text, Text.blank l = true → ¬ OptionEntry.marker <+: l :=
    fun l hl => Text.not_prefix_of_blank hl (show 'O' ∈ OptionEntry.marker by decide) (by decide)
  intro l hl
  rw [Bool.eq_false_iff, ne_eq, List.isPrefixOf_iff_prefix]
  simp only [List.mem_append, List.mem_cons] at hl
  rcases hl with hbanner | rfl | rfl | hlisting
  · exact sheet.banner_no_options l hbanner
  · exact Text.not_prefix_of_head? (show _ = some 'O' by decide) sheet.head?_usageLine (by decide)
  · exact hblank _ sheet.below_blank
  · unfold listingLines at hlisting
    cases hblock : sheet.listing with
    | none =>
      rw [hblock] at hlisting
      cases hlisting
    | some block =>
      simp only [hblock, List.mem_cons, List.mem_append, List.not_mem_nil, or_false] at hlisting
      rcases hlisting with rfl | hline | rfl
      · decide
      · exact block.no_options l hline
      · exact hblank _ block.close_blank

/-- The options block is the option lines. -/
theorem block?_text (sheet : Sheet) (ha : '\n' ∉ applet) :
    OptionEntry.block? (sheet.text applet) = some (sheet.options.map OptionLine.text) := by
  have hlines : Text.lines (sheet.text applet)
      = (sheet.banner ++ sheet.usageLine applet :: sheet.below :: sheet.listingLines)
        ++ (OptionEntry.marker ++ sheet.hint)
          :: (sheet.options.map OptionLine.text ++ sheet.close :: Text.lines sheet.rest) := by
    rw [sheet.lines_text ha, lines]
    simp
  have hmark : OptionEntry.marker.isPrefixOf (OptionEntry.marker ++ sheet.hint) = true :=
    List.isPrefixOf_iff_prefix.mpr (List.prefix_append _ _)
  refine Text.blockBelow_eq_some hlines sheet.no_options_above hmark ?_ sheet.close_blank
  intro l hl
  obtain ⟨option, -, rfl⟩ := List.mem_map.mp hl
  exact option.blank_text

theorem listOfHelp_text (sheet : Sheet) (ha : '\n' ∉ applet) :
    OptionEntry.listOfHelp applet (sheet.text applet)
      = .ok (sheet.options.map OptionLine.entry) := by
  rw [OptionEntry.listOfHelp_eq_ok_iff, sheet.block?_text ha, Option.getD_some, List.map_map,
    List.map_map]
  exact List.map_congr_left fun option _ => option.ofWords?_words_text

/-- No line above a listing looks like the line that announces it. -/
theorem no_listing_above (sheet : Sheet) :
    ∀ l ∈ sheet.banner ++ [sheet.usageLine applet, sheet.below],
      SubApplets.isMarker l = false := by
  intro l hl
  simp only [List.mem_append, List.mem_cons, List.not_mem_nil, or_false] at hl
  rcases hl with hbanner | rfl | rfl
  · exact beq_eq_false_iff_ne.mpr (sheet.banner_no_listing l hbanner)
  · exact SubApplets.isMarker_of_head? sheet.head?_usageLine (by decide)
  · exact SubApplets.isMarker_of_blank sheet.below_blank

/-- In a sheet without a listing no line looks as if it announced one. -/
theorem no_listing (sheet : Sheet) (hnone : sheet.listing = none) :
    ∀ l ∈ sheet.lines applet, SubApplets.isMarker l = false := by
  have hheader : SubApplets.isMarker (OptionEntry.marker ++ sheet.hint) = false := by
    have hmarker : OptionEntry.marker.head? = some 'O' := by decide
    exact SubApplets.isMarker_of_head? (Text.head?_append_of_eq_some hmarker _) (by decide)
  have hlines : sheet.lines applet = sheet.banner ++ [sheet.usageLine applet, sheet.below]
      ++ (OptionEntry.marker ++ sheet.hint)
        :: (sheet.options.map OptionLine.text ++ [sheet.close]) := by
    simp [lines, listingLines, hnone]
  intro l hl
  rw [hlines] at hl
  rcases List.mem_append.mp hl with habove | hbelow
  · exact sheet.no_listing_above l habove
  · simp only [List.mem_cons, List.mem_append, List.mem_map, List.not_mem_nil, or_false] at hbelow
    rcases hbelow with rfl | ⟨option, -, rfl⟩ | rfl
    · exact hheader
    · exact option.isMarker_text
    · exact SubApplets.isMarker_of_blank sheet.close_blank

/-- The listing of the sheet is found, and without one the search goes on below the sheet. -/
theorem listing?_text (sheet : Sheet) (ha : '\n' ∉ applet) :
    SubApplets.listing? (sheet.text applet)
      = (sheet.listing.map ListingBlock.lines).or (SubApplets.listing? sheet.rest) := by
  cases hlisting : sheet.listing with
  | none =>
    rw [Option.map_none, Option.none_or]
    exact Text.blockBelow_skip (sheet.lines_text ha) (sheet.no_listing hlisting)
  | some block =>
    have hlines : Text.lines (sheet.text applet)
        = (sheet.banner ++ [sheet.usageLine applet, sheet.below])
          ++ SubApplets.marker :: (block.lines ++ block.close
            :: ((OptionEntry.marker ++ sheet.hint)
              :: (sheet.options.map OptionLine.text ++ sheet.close :: Text.lines sheet.rest))) := by
      rw [sheet.lines_text ha, lines, listingLines, hlisting]
      simp
    rw [Option.map_some, Option.some_or]
    exact Text.blockBelow_eq_some hlines sheet.no_listing_above (by decide) block.not_blank
      block.close_blank

/-- **A well-formed help text is read as exactly what it says**, whatever stands above and below
it.  A listing below a sheet that has none of its own would be taken for its listing, so such a
sheet is read as having none exactly when no line below it announces one. -/
theorem parse_text (sheet : Sheet) (ha : '\n' ∉ applet) :
    Help.parse applet (sheet.text applet) = .ok
        { usage := ⟨sheet.synopsis, sheet.summary⟩
          options := sheet.options.map OptionLine.entry
          subApplets :=
            (sheet.listing.map ListingBlock.lines).or (SubApplets.listing? sheet.rest) }
      ∧ (SubApplets.listing? sheet.rest = none
          ↔ ∀ line ∈ Text.lines sheet.rest, SubApplets.isMarker line = false) := by
  constructor
  · exact Help.parse_eq_ok_iff.mpr
      ⟨sheet.find?_text ha, sheet.listOfHelp_text ha, sheet.listing?_text ha⟩
  · exact Text.blockBelow_eq_none_iff

/-- A sheet where much looks like a marker: banner, synopsis, listing, hint, options and what
comes after them. -/
def crowded : Sheet where
  banner := ["usage: in brief".toList, [], "  Usage: below".toList, "Currently defined".toList]
  synopsis := "[-1 | -2] A : B".toList
  summary := "joins two files:".toList
  below := [' ', '\t']
  listing := some
    { lines := ["Usage: left, right : both".toList, "Currently defined applets:".toList]
      close := []
      is_line := by decide
      not_blank := by decide
      no_options := by decide
      close_line := by decide
      close_blank := by decide }
  hint := "Options: all".toList
  options :=
    [ { first := ⟨"-t".toList, 2, by decide⟩
        second := some ⟨"--tab".toList, 1, by decide⟩
        takesArgument := true
        description := ["the".toList, "*".toList]
        text := "  -t,,\t--tab, <arg>  *  the * ".toList
        second_hyphen := fun token h => by cases h; decide
        spaced := Text.words_eq_iff.mp (by decide)
        is_line := by decide },
      { first := ⟨"Options:".toList, 0, by decide⟩
        second := none
        takesArgument := false
        description := []
        text := "Options: *".toList
        second_hyphen := fun token h => by cases h
        spaced := Text.words_eq_iff.mp (by decide)
        is_line := by decide } ]
  close := []
  rest := "Currently defined applets:\nlater\nUsage: join C : no\r\nOptions: \n?".toList
  banner_line := by decide
  banner_no_usage := by decide
  banner_no_options := by decide
  banner_no_listing := by decide
  synopsis_line := by decide
  summary_line := by decide
  summary_end := fun c h => by cases h; decide
  one_separator := fun before after h => List.length_eq_zero_iff.mp <| Nat.le_zero.mp <|
    Text.length_le_of_cutAtLast Usage.separator_ne_nil
      (show Text.cutAtLast Usage.separator _ = some ([], "joins two files:".toList) by decide)
      before after h
  below_line := by decide
  below_blank := by decide
  hint_line := by decide
  close_line := by decide
  close_blank := by decide

theorem parse_text_crowded :
    '\n' ∉ "join".toList ∧
      Help.parse "join".toList (crowded.text "join".toList) = .ok
        { usage := ⟨"[-1 | -2] A : B".toList, "joins two files:".toList⟩
          options :=
            [⟨["-t".toList, "--tab".toList], true, "the *".toList⟩,
              ⟨["Options:".toList], false, []⟩]
          subApplets := some
            ["Usage: left, right : both".toList, "Currently defined applets:".toList] } := by
  have happlet : '\n' ∉ "join".toList := by decide
  refine ⟨happlet, (parse_text crowded happlet).1.trans (congrArg Except.ok ?_)⟩
  decide

end Sheet

end Manpage
