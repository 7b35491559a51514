/-
# A page loses nothing of the help text

Two help texts with the same page say the same, given the same applet, date, fragments and known
applets: `parse_eq_of_generate_eq`.  The page is read from top to bottom.

* Summary and synopsis stand on one line each, at places that are the same on both pages
  (`Text.terminated_inj`).
* What follows is the options and the further sections.  Neither has an end of its own, and the
  fragments among the sections may hold any text, paragraphs of options included.  But the
  fragments are the same on both pages and come last, so they can be taken off from the end;
  what is then left holds paragraphs first, and after them the listing, which does not begin like
  a paragraph (`options_sections_inj`).
-/
import Manpage.Proofs.Page.Generate
import Manpage.Proofs.Page.Roff

namespace Manpage.Page

/-! ## 1. Options and sections -/

/-- The lines of the options: no options leave an empty line. -/
def optionLines (options : List OptionEntry) : List Text :=
  if options = [] then [[]] else options.flatMap Roff.paragraph

theorem cutAt_options {options : List OptionEntry} (h : ∀ option ∈ options, option.Shaped) :
    Text.cutAt Text.isBreak (Roff.options options) = optionLines options := by
  cases options with
  | nil => rfl
  | cons option options =>
    rw [Roff.options, Text.cutAt_unlines (by simp [Roff.paragraph]),
      Text.flatMap_cutAt_isBreak (Roff.not_mem_of_mem_paragraphs h), optionLines,
      if_neg (List.cons_ne_nil option options)]

/-- The lines of the sections before the fragments: without any section there is an empty line. -/
def sectionLines (includes : List Text) : Option (List Text) → List Text
  | some listing => Roff.subAppletsSection listing
  | none => if includes = [] then [[]] else []

theorem sectionLines_none (includes : List Text) :
    sectionLines includes none = if includes = [] then [[]] else [] := rfl

/-- The lines of all sections: those of the listing, then those of the fragments. -/
theorem cutAt_sections (includes : List Text) {subApplets : Option (List Text)}
    (h : ∀ listing, subApplets = some listing → ∀ line ∈ listing, '\n' ∉ line) :
    Text.cutAt Text.isBreak
        (Text.unlines ((subApplets.map Roff.subAppletsSection).getD [] ++ includes))
      = sectionLines includes subApplets ++ includes.flatMap (Text.cutAt Text.isBreak) := by
  cases subApplets with
  | none =>
    cases includes with
    | nil => rfl
    | cons text includes =>
      change Text.cutAt Text.isBreak (Text.unlines (text :: includes)) = _
      rw [Text.cutAt_unlines (List.cons_ne_nil text includes), sectionLines,
        if_neg (List.cons_ne_nil text includes), List.nil_append]
  | some listing =>
    have hlines : ∀ line ∈ Roff.subAppletsSection listing, '\n' ∉ line := by
      intro line hline
      simp only [Roff.subAppletsSection, List.mem_append, List.mem_cons, List.not_mem_nil,
        or_false] at hline
      rcases hline with ((rfl | rfl | rfl) | hline) | rfl
      · decide
      · decide
      · decide
      · exact h listing rfl line hline
      · decide
    change Text.cutAt Text.isBreak (Text.unlines (Roff.subAppletsSection listing ++ includes)) = _
    rw [Text.cutAt_unlines (by simp [Roff.subAppletsSection]), List.flatMap_append,
      Text.flatMap_cutAt_isBreak hlines, sectionLines]

/-- What follows the options does not begin like a paragraph. -/
theorem head?_sectionLines (includes : List Text) (subApplets : Option (List Text)) :
    (sectionLines includes subApplets).head? ≠ some Roff.paragraphRequest := by
  cases subApplets with
  | none =>
    rw [sectionLines_none]
    split
    · decide
    · decide
  | some listing =>
    have hhead : (sectionLines includes (some listing)).head? = some ".SH APPLETS".toList := rfl
    rw [hhead]
    decide

theorem sectionLines_inj {includes : List Text} {subApplets subApplets' : Option (List Text)}
    (h : sectionLines includes subApplets = sectionLines includes subApplets') :
    subApplets = subApplets' := by
  -- a listing makes at least four lines, and without one there is at most one
  have hlength : ∀ listing : List Text,
      sectionLines includes none ≠ sectionLines includes (some listing) := by
    intro listing heq
    have hle : (sectionLines includes none).length ≤ 1 := by
      rw [sectionLines_none]
      split
      · exact Nat.le_refl 1
      · exact Nat.zero_le 1
    rw [heq] at hle
    simp [sectionLines, Roff.subAppletsSection] at hle
  cases subApplets with
  | none =>
    cases subApplets' with
    | none => rfl
    | some listing' => exact absurd h (hlength listing')
  | some listing =>
    cases subApplets' with
    | none => exact absurd h.symm (hlength listing)
    | some listing' =>
      simp only [sectionLines, Roff.subAppletsSection] at h
      rw [List.append_cancel_left (List.append_cancel_right h)]

/-- Options that leave an empty line are not options that leave paragraphs. -/
theorem optionLines_append_inj {options options' : List OptionEntry} {rest rest' : List Text}
    (h : ∀ option ∈ options, option.Shaped) (h' : ∀ option ∈ options', option.Shaped)
    (hrest : rest.head? ≠ some Roff.paragraphRequest)
    (hrest' : rest'.head? ≠ some Roff.paragraphRequest)
    (heq : optionLines options ++ rest = optionLines options' ++ rest') :
    options = options' ∧ rest = rest' := by
  cases options with
  | nil =>
    cases options' with
    | nil => exact ⟨rfl, (List.cons.inj heq).2⟩
    | cons option' options' => exact absurd (List.cons.inj heq).1 (by decide)
  | cons option options =>
    cases options' with
    | nil => exact absurd (List.cons.inj heq).1 (by decide)
    | cons option' options' =>
      rw [optionLines, optionLines, if_neg (List.cons_ne_nil option options),
        if_neg (List.cons_ne_nil option' options')] at heq
      exact Roff.flatMap_paragraph_append_inj h h' hrest hrest' heq

/-- **Options and listing can be read back from below the request for the options**, if the
fragments that follow them are known. -/
theorem options_sections_inj {help help' : Help} (h : help.Shaped) (h' : help'.Shaped)
    (includes : List Text)
    (heq : Roff.options help.options ++ '\n' ::
        Text.unlines ((help.subApplets.map Roff.subAppletsSection).getD [] ++ includes)
      = Roff.options help'.options ++ '\n' ::
        Text.unlines ((help'.subApplets.map Roff.subAppletsSection).getD [] ++ includes)) :
    help.options = help'.options ∧ help.subApplets = help'.subApplets := by
  have hcut := congrArg (Text.cutAt Text.isBreak) heq
  rw [Text.cutAt_append_cons rfl, Text.cutAt_append_cons rfl, cutAt_options h.options,
    cutAt_options h'.options, cutAt_sections includes h.listing,
    cutAt_sections includes h'.listing, ← List.append_assoc, ← List.append_assoc] at hcut
  have hlines := List.append_cancel_right hcut
  obtain ⟨hoptions, hsections⟩ := optionLines_append_inj h.options h'.options
    (head?_sectionLines includes help.subApplets) (head?_sectionLines includes help'.subApplets)
    hlines
  exact ⟨hoptions, sectionLines_inj hsections⟩

/-! ## 2. The whole page -/

/-- The parts of a page with what the help text decides told apart from the rest. -/
theorem parts_ofHelp (edition : Edition) (applet : Text) (fragments : Fragments) (help : Help) :
    (ofHelp edition applet fragments help).parts =
      [(ofHelp edition applet fragments help).title, ".SH NAME".toList]
      ++ (applet ++ " \\- ".toList ++ help.usage.summary)
      :: ([".SH SYNOPSIS".toList, ".B ".toList ++ applet]
      ++ ("\\fI".toList ++ (help.usage.synopsis ++ "\\fR".toList))
      :: ([".SH DESCRIPTION".toList, fragments.description, ".SH OPTIONS".toList]
      ++ Roff.options help.options
      :: Text.unlines ((help.subApplets.map Roff.subAppletsSection).getD [] ++ fragments.includes)
      :: (closing ++ [".SH \"SEE ALSO\"".toList,
        Text.join [',', '\n'] (SeeAlso.references applet edition.known)]))) := by
  simp only [parts, ofHelp, List.cons_append, List.nil_append, List.append_assoc]

/-- **A page determines the help that it presents.** -/
theorem render_ofHelp_inj {edition : Edition} {applet : Text} {fragments : Fragments}
    {help help' : Help} (h : help.Shaped) (h' : help'.Shaped)
    (heq : (ofHelp edition applet fragments help).render
      = (ofHelp edition applet fragments help').render) : help = help' := by
  have hfont : '\n' ∉ "\\fR".toList := by decide
  rw [render_eq_terminated, render_eq_terminated, parts_ofHelp, parts_ofHelp] at heq
  obtain ⟨hsummary, hrest⟩ := Text.terminated_inj h.summary h'.summary heq
  obtain ⟨hsynopsis, hrest⟩ := Text.terminated_inj
    (by simpa [hfont] using h.synopsis) (by simpa [hfont] using h'.synopsis) hrest
  rw [Text.terminated_append, Text.terminated_append, List.append_cancel_left_eq,
    Text.terminated_cons, Text.terminated_cons, Text.terminated_cons, Text.terminated_cons,
    ← List.cons_append, ← List.cons_append, ← List.append_assoc, ← List.append_assoc] at hrest
  obtain ⟨hoptions, hlisting⟩ :=
    options_sections_inj h h' fragments.includes (List.append_cancel_right hrest)
  obtain ⟨⟨synopsis, summary⟩, options, subApplets⟩ := help
  obtain ⟨⟨synopsis', summary'⟩, options', subApplets'⟩ := help'
  simp only at hsummary hsynopsis hoptions hlisting
  rw [hsummary, List.append_cancel_right hsynopsis, hoptions, hlisting]

/-- **A page loses nothing of the help text.**  If two help texts are accepted and give the same
page, they have been read as the same help. -/
theorem parse_eq_of_generate_eq {edition : Edition} {applet first second page : Text}
    {fragments : Fragments} {counted counted' : PageCounts}
    (hfirst : generate edition applet first fragments = .ok (page, counted))
    (hsecond : generate edition applet second fragments = .ok (page, counted')) :
    ∃ help, Help.parse applet first = .ok help ∧ Help.parse applet second = .ok help := by
  obtain ⟨help, hparse, hpage, -⟩ := generate_eq_ok_iff.mp hfirst
  obtain ⟨help', hparse', hpage', -⟩ := generate_eq_ok_iff.mp hsecond
  have hsame : help = help' := render_ofHelp_inj (Help.shaped_of_parse hparse)
    (Help.shaped_of_parse hparse') (hpage.trans hpage'.symm)
  exact ⟨help, hparse, hsame ▸ hparse'⟩

/-- A help text without a word or a space too many. -/
def tightText : Text :=
  "Usage: q <x> : run\nCurrently defined applets:\n a\n\nOptions: \n-f, --to <arg> * a b\n".toList

/-- The same with a banner, other spaces and commas, and the listing at the end. -/
def looseText : Text :=
  "q\nUsage: q <x> : run \nOptions: \n -f --to, <arg> *  a  b \n\nCurrently defined applets: \n a".toList

/-- Two layouts of one help give one page, and the fragment on it looks like one more option. -/
theorem parse_eq_of_generate_eq_tight_loose :
    ∃ page counted help,
      generate ⟨[], ["qlop".toList]⟩ "q".toList tightText ⟨[], [".TP\nx".toList]⟩
        = .ok (page, counted) ∧
      generate ⟨[], ["qlop".toList]⟩ "q".toList looseText ⟨[], [".TP\nx".toList]⟩
        = .ok (page, counted) ∧
      Help.parse "q".toList tightText = .ok help ∧ Help.parse "q".toList looseText = .ok help := by
  have htight : Help.parse "q".toList tightText = .ok ⟨⟨"<x>".toList, "run".toList⟩,
      [⟨["-f".toList, "--to".toList], true, "a b".toList⟩], some [" a".toList]⟩ := by
    rfl
  have hloose : Help.parse "q".toList looseText = .ok ⟨⟨"<x>".toList, "run".toList⟩,
      [⟨["-f".toList, "--to".toList], true, "a b".toList⟩], some [" a".toList]⟩ := by
    rfl
  have htightPage := (@generate_eq_ok_iff ⟨[], ["qlop".toList]⟩ _ tightText _
    ⟨[], [".TP\nx".toList]⟩ _).mpr ⟨_, htight, rfl, rfl⟩
  have hloosePage := (@generate_eq_ok_iff ⟨[], ["qlop".toList]⟩ _ looseText _
    ⟨[], [".TP\nx".toList]⟩ _).mpr ⟨_, hloose, rfl, rfl⟩
  obtain ⟨help, hfirst, hsecond⟩ := parse_eq_of_generate_eq htightPage hloosePage
  exact ⟨_, _, help, htightPage, hloosePage, hfirst, hsecond⟩

end Manpage.Page
