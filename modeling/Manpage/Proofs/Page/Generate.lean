/-
# What a page is made from

A page is made exactly when the help text is read (`generate_eq_ok_iff`), and of the help text
only its lines matter.  Lines may end with a line feed or with a carriage return and a line feed:
`generate_withReturns` says that the page, its counts and a refusal come out the same.

There are two notions of a line to reconcile.  Options, listing and the quoted line of a refusal
are read from `Text.lines`, which drops the carriage return.  The usage line ends at the line feed
alone, so there the carriage return is read as the last character of the summary.  It cannot
belong to a separator, and it is taken off the summary with the white space at its end.
-/
import Manpage.Page.Basic
import Manpage.Proofs.Help.Parsed

namespace Manpage

/-! ## 1. When a page is made -/

theorem Page.generate_eq_ok_iff {edition : Edition} {applet helpText page : Text}
    {fragments : Fragments} {counted : PageCounts} :
    generate edition applet helpText fragments = .ok (page, counted) ↔
      ∃ help, Help.parse applet helpText = .ok help ∧
        (ofHelp edition applet fragments help).render = page ∧
        counts edition applet fragments help = counted := by
  unfold generate
  cases Help.parse applet helpText with
  | error m => simp [bind, Except.bind]
  | ok help => simp [bind, Except.bind, pure, Except.pure]

theorem Page.render_eq_terminated (page : Page) : page.render = Text.terminated page.parts := rfl

/-! ## 2. The ends of lines -/

section Returns

variable {applet text : Text}

theorem Text.blockBelow_withReturns (marks : Text → Bool) (h : '\r' ∉ text) :
    blockBelow marks (withReturns text) = blockBelow marks text := by
  rw [blockBelow, blockBelow, lines_withReturns h]

theorem Usage.ofHelp_withReturns (hbreak : '\n' ∉ applet) (hreturn : '\r' ∉ applet)
    (h : '\r' ∉ text) : ofHelp applet (Text.withReturns text) = ofHelp applet text := by
  have hfirst : Text.firstLine (Text.withReturns text) = Text.firstLine text := by
    rw [Text.firstLine, Text.firstLine, Text.lines_withReturns h]
  rw [ofHelp, ofHelp, find?_withReturns hbreak hreturn, hfirst]

theorem OptionEntry.listOfHelp_withReturns (h : '\r' ∉ text) :
    listOfHelp applet (Text.withReturns text) = listOfHelp applet text := by
  rw [listOfHelp, listOfHelp, block?, block?, Text.blockBelow_withReturns _ h]

theorem Help.parse_withReturns (hbreak : '\n' ∉ applet) (hreturn : '\r' ∉ applet)
    (h : '\r' ∉ text) : parse applet (Text.withReturns text) = parse applet text := by
  have hlisting : SubApplets.listing? (Text.withReturns text) = SubApplets.listing? text :=
    Text.blockBelow_withReturns _ h
  rw [parse, parse, Usage.ofHelp_withReturns hbreak hreturn h,
    OptionEntry.listOfHelp_withReturns h, hlisting]

/-- **The ends of lines do not show on a page.**  With a carriage return before each line feed of
the help text, the page and its counts are the same, and so is the refusal if there is no page. -/
theorem Page.generate_withReturns (edition : Edition) (fragments : Fragments)
    (hbreak : '\n' ∉ applet) (hreturn : '\r' ∉ applet) (htext : '\r' ∉ text) :
    generate edition applet (Text.withReturns text) fragments
      = generate edition applet text fragments := by
  rw [generate, generate, Help.parse_withReturns hbreak hreturn htext]

end Returns

/-- A refusal quotes the line without its carriage return. -/
theorem Page.generate_withReturns_refusal :
    '\n' ∉ "q".toList ∧ '\r' ∉ "q".toList ∧
      '\r' ∉ "Usage: q <x> : run one \nOptions: \n -v * speak\n -x mark\n".toList ∧
      generate ⟨[], []⟩ "q".toList
          (Text.withReturns "Usage: q <x> : run one \nOptions: \n -v * speak\n -x mark\n".toList)
          ⟨[], []⟩
        = .error ⟨"q".toList, " -x mark".toList, .noDescriptionMark⟩ := by
  have hbreak : '\n' ∉ "q".toList := by decide
  have hreturn : '\r' ∉ "q".toList := by decide
  have htext : '\r' ∉ "Usage: q <x> : run one \nOptions: \n -v * speak\n -x mark\n".toList := by
    decide
  refine ⟨hbreak, hreturn, htext, ?_⟩
  rw [generate_withReturns ⟨[], []⟩ ⟨[], []⟩ hbreak hreturn htext]
  rfl

end Manpage
