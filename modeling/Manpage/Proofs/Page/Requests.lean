/-
# The requests on a page

A formatter takes a line for a request if it begins with a dot or an apostrophe.  Text from
outside that comes to stand at the beginning of a line can therefore give orders to the formatter.
`controlLines_generate` says which lines of a page are requests, and lists them in order:

* those of the layout, each section's request in its place and `.nf` always followed by its `.fi`;
* for each option `.TP`, and the description of the option if it begins like a request;
* the lines of the listing and of the fragments that begin like requests;
* one reference for each other known applet.

The synopsis, the summary and the flags do not occur in this list, and the date only within the
title line: they never begin a line.
-/
import Manpage.Proofs.Page.Generate
import Manpage.Proofs.Page.Roff

namespace Manpage

/-! ## 1. Control lines -/

namespace Roff

/-- A formatter takes a line for a request if it begins with a dot or an apostrophe. -/
def isControl (line : Text) : Bool := line.head? == some '.' || line.head? == some '\''

/-- The lines of a text that a formatter takes for requests. -/
def controlLines (text : Text) : List Text := (Text.cutAt Text.isBreak text).filter isControl

theorem controlLines_of_isControl {line : Text} (hline : '\n' ∉ line)
    (h : isControl line = true) : controlLines line = [line] := by
  rw [controlLines, Text.cutAt_isBreak_of_not_mem hline]
  simp [h]

theorem controlLines_eq_nil {line : Text} (hline : '\n' ∉ line) (h : isControl line = false) :
    controlLines line = [] := by
  rw [controlLines, Text.cutAt_isBreak_of_not_mem hline]
  simp [h]

theorem controlLines_append_break (s t : Text) :
    controlLines (s ++ '\n' :: t) = controlLines s ++ controlLines t := by
  rw [controlLines, Text.cutAt_append_cons rfl, List.filter_append, controlLines, controlLines]

theorem controlLines_unlines (ls : List Text) :
    controlLines (Text.unlines ls) = ls.flatMap controlLines := by
  cases ls with
  | nil => rfl
  | cons l ls =>
    rw [controlLines, Text.cutAt_unlines (List.cons_ne_nil l ls), List.filter_flatMap]
    rfl

/-- The requests of a page are those of its parts. -/
theorem controlLines_render (page : Page) :
    controlLines page.render = page.parts.flatMap controlLines := by
  have hcut := Text.cutAt_terminated [] page.parts
  rw [List.append_nil] at hcut
  rw [controlLines, page.render_eq_terminated, hcut, List.filter_append, List.filter_flatMap]
  exact List.append_nil _

/-- A paragraph begins with its request; of the rest only the description can be one. -/
theorem controlLines_paragraph {option : OptionEntry} (h : option.Shaped) :
    (paragraph option).flatMap controlLines
      = paragraphRequest :: controlLines option.description := by
  have hrequest : controlLines ".TP".toList = [paragraphRequest] := by decide
  have hflags : controlLines (flagLine option) = [] := by
    refine controlLines_eq_nil (not_mem_flagLine h) ?_
    rw [isControl, head?_flagLine h]
    rfl
  rw [paragraph, List.flatMap_cons, List.flatMap_cons, List.flatMap_singleton, hrequest, hflags]
  rfl

theorem controlLines_options {options : List OptionEntry}
    (h : ∀ option ∈ options, option.Shaped) :
    controlLines (Roff.options options)
      = (options.map OptionEntry.description).flatMap
          fun description => paragraphRequest :: controlLines description := by
  rw [Roff.options, controlLines_unlines]
  induction options with
  | nil => rfl
  | cons option options ih =>
    rw [List.flatMap_cons, List.flatMap_append,
      controlLines_paragraph (h option List.mem_cons_self),
      ih fun other ho => h other (List.mem_cons_of_mem option ho), List.map_cons,
      List.flatMap_cons]

/-- The requests of the section that lists the sub applets, if there is one: no-fill mode is
switched on before the listing and off after it. -/
def listingRequests : Option (List Text) → List Text
  | none => []
  | some listing =>
    [".SH APPLETS".toList, ".nf".toList, ".B This applet also has sub applets:".toList]
      ++ listing.flatMap controlLines ++ [".fi".toList]

theorem controlLines_sections (subApplets : Option (List Text)) (includes : List Text) :
    controlLines (Text.unlines ((subApplets.map subAppletsSection).getD [] ++ includes))
      = listingRequests subApplets ++ includes.flatMap controlLines := by
  rw [controlLines_unlines, List.flatMap_append, List.append_cancel_right_eq]
  cases subApplets with
  | none => rfl
  | some listing =>
    have hopening : [".SH APPLETS".toList, ".nf".toList,
        ".B This applet also has sub applets:".toList].flatMap controlLines
        = [".SH APPLETS".toList, ".nf".toList, ".B This applet also has sub applets:".toList] := by
      decide
    have hclosing : [".fi".toList].flatMap controlLines = [".fi".toList] := by decide
    rw [Option.map_some, Option.getD_some, subAppletsSection, List.flatMap_append,
      List.flatMap_append, hopening, hclosing, listingRequests]

/-! ## 2. References -/

/-- All lines but the last are followed by a comma. -/
def commaEnded : List Text → List Text
  | [] => []
  | [last] => [last]
  | line :: next :: rest => (line ++ [',']) :: commaEnded (next :: rest)

/-- References are requests, each on a line of its own. -/
theorem controlLines_join_references {names : List Text} (h : ∀ name ∈ names, '\n' ∉ name) :
    controlLines (Text.join [',', '\n'] (names.map SeeAlso.reference))
      = commaEnded (names.map SeeAlso.reference) := by
  have hreference : ∀ name ∈ names, '\n' ∉ SeeAlso.reference name := fun name hname =>
    List.not_mem_append (List.not_mem_append (by decide) (h name hname)) (by decide)
  induction names with
  | nil => rfl
  | cons name names ih =>
    have hname := hreference name List.mem_cons_self
    have hrest := ih (fun other ho => h other (List.mem_cons_of_mem name ho))
      fun other ho => hreference other (List.mem_cons_of_mem name ho)
    cases names with
    | nil =>
      rw [List.map_singleton, Text.join_singleton, commaEnded]
      exact controlLines_of_isControl hname rfl
    | cons next names =>
      have hcomma : '\n' ∉ SeeAlso.reference name ++ [','] :=
        List.not_mem_append hname (by decide)
      have hsplit : Text.join [',', '\n'] ((name :: next :: names).map SeeAlso.reference)
          = (SeeAlso.reference name ++ [','])
            ++ '\n' :: Text.join [',', '\n'] ((next :: names).map SeeAlso.reference) := by
        simp
      rw [hsplit, controlLines_append_break, hrest, controlLines_of_isControl hcomma rfl]
      rfl

theorem controlLines_references (applet : Text) {known : List Text}
    (h : ∀ name ∈ known, '\n' ∉ name) :
    controlLines (Text.join [',', '\n'] (SeeAlso.references applet known))
      = commaEnded (SeeAlso.references applet known) := by
  refine controlLines_join_references fun name hname => h name ?_
  rw [SeeAlso.others, Text.mem_ordered] at hname
  exact (List.mem_filter.mp hname).1

end Roff

/-! ## 3. The whole page -/

namespace Page

/-- The title line of a page. -/
def titleLine (applet date : Text) : Text :=
  ".TH ".toList ++ applet ++ " \"1\" \"".toList ++ date
    ++ "\" \"Gentoo Foundation\" \"".toList ++ applet ++ "\"".toList

theorem title_eq (page : Page) : page.title = titleLine page.applet page.date := rfl

/-- The requests of a page, from what can bring any: neither the synopsis, nor the summary, nor
the flags of an option are asked for. -/
def requests (edition : Edition) (applet : Text) (fragments : Fragments)
    (descriptions : List Text) (subApplets : Option (List Text)) : List Text :=
  [titleLine applet edition.date, ".SH NAME".toList, ".SH SYNOPSIS".toList,
    ".B ".toList ++ applet, ".SH DESCRIPTION".toList]
  ++ Roff.controlLines fragments.description
  ++ [".SH OPTIONS".toList]
  ++ (descriptions.flatMap fun description => ".TP".toList :: Roff.controlLines description)
  ++ Roff.listingRequests subApplets
  ++ fragments.includes.flatMap Roff.controlLines
  ++ [".SH \"REPORTING BUGS\"".toList, ".br".toList, ".SH AUTHORS".toList, ".nf".toList,
    ".fi".toList, ".SH \"SEE ALSO\"".toList]
  ++ Roff.commaEnded (SeeAlso.references applet edition.known)

/-- The lines of the layout that begin like requests are requests, wherever they stand. -/
theorem controlLines_closing :
    closing.flatMap Roff.controlLines
      = [".SH \"REPORTING BUGS\"".toList, ".br".toList, ".SH AUTHORS".toList, ".nf".toList,
        ".fi".toList] := by
  decide

theorem controlLines_titleLine {applet date : Text} (happlet : '\n' ∉ applet)
    (hdate : '\n' ∉ date) : Roff.controlLines (titleLine applet date) = [titleLine applet date] := by
  refine Roff.controlLines_of_isControl ?_ rfl
  have hstart : '\n' ∉ ".TH ".toList ++ applet ++ " \"1\" \"".toList ++ date :=
    List.not_mem_append
      (List.not_mem_append (List.not_mem_append (by decide) happlet) (by decide)) hdate
  exact List.not_mem_append
    (List.not_mem_append (List.not_mem_append hstart (by decide)) happlet) (by decide)

/-- The line that names the applet is plain text, for the applet's name begins it. -/
theorem controlLines_nameLine {applet summary : Text} (happlet : '\n' ∉ applet)
    (hplain : Roff.isControl applet = false) (hsummary : '\n' ∉ summary) :
    Roff.controlLines (applet ++ " \\- ".toList ++ summary) = [] := by
  refine Roff.controlLines_eq_nil
    (List.not_mem_append (List.not_mem_append happlet (by decide)) hsummary) ?_
  cases applet with
  | nil => rfl
  | cons c rest => exact hplain

theorem controlLines_synopsisLine {synopsis : Text} (h : '\n' ∉ synopsis) :
    Roff.controlLines ("\\fI".toList ++ synopsis ++ "\\fR".toList) = [] :=
  Roff.controlLines_eq_nil
    (List.not_mem_append (List.not_mem_append (by decide) h) (by decide)) rfl

theorem controlLines_appletLine {applet : Text} (h : '\n' ∉ applet) :
    Roff.controlLines (".B ".toList ++ applet) = [".B ".toList ++ applet] :=
  Roff.controlLines_of_isControl (List.not_mem_append (by decide) h) rfl

/-- **The requests of a page that presents a help.** -/
theorem controlLines_render_ofHelp {edition : Edition} {applet : Text} (fragments : Fragments)
    {help : Help} (hhelp : help.Shaped) (happlet : '\n' ∉ applet)
    (hplain : Roff.isControl applet = false) (hdate : '\n' ∉ edition.date)
    (hknown : ∀ name ∈ edition.known, '\n' ∉ name) :
    Roff.controlLines (ofHelp edition applet fragments help).render
      = requests edition applet fragments (help.options.map OptionEntry.description)
          help.subApplets := by
  have hname : Roff.controlLines ".SH NAME".toList = [".SH NAME".toList] := by decide
  have hsynopsis : Roff.controlLines ".SH SYNOPSIS".toList = [".SH SYNOPSIS".toList] := by decide
  have hdescription : Roff.controlLines ".SH DESCRIPTION".toList = [".SH DESCRIPTION".toList] := by
    decide
  have hoptions : Roff.controlLines ".SH OPTIONS".toList = [".SH OPTIONS".toList] := by decide
  have hseeAlso : Roff.controlLines ".SH \"SEE ALSO\"".toList = [".SH \"SEE ALSO\"".toList] := by
    decide
  rw [Roff.controlLines_render, parts, List.flatMap_append, List.flatMap_append,
    controlLines_closing]
  simp only [List.flatMap_cons, List.flatMap_nil, title_eq, controlLines_titleLine happlet hdate,
    hname, hsynopsis, hdescription, hoptions, hseeAlso, ofHelp,
    controlLines_nameLine happlet hplain hhelp.summary, controlLines_appletLine happlet,
    controlLines_synopsisLine hhelp.synopsis, Roff.controlLines_options hhelp.options,
    Roff.controlLines_sections, Roff.controlLines_references applet hknown]
  simp only [requests, Roff.paragraphRequest, List.append_assoc, List.cons_append,
    List.nil_append, List.append_nil]

/-- **The requests of a page.**  Whatever the help text and the fragments say, these lines of the
page are requests, and no others; the listing has its section exactly when the help text has the
line that announces one. -/
theorem controlLines_generate {edition : Edition} {applet helpText page : Text}
    {fragments : Fragments} {counted : PageCounts} (happlet : '\n' ∉ applet)
    (hplain : Roff.isControl applet = false) (hdate : '\n' ∉ edition.date)
    (hknown : ∀ name ∈ edition.known, '\n' ∉ name)
    (hpage : generate edition applet helpText fragments = .ok (page, counted)) :
    ∃ help, Help.parse applet helpText = .ok help ∧
      (help.subApplets = none ↔
        ∀ line ∈ Text.lines helpText, SubApplets.isMarker line = false) ∧
      Roff.controlLines page
        = requests edition applet fragments (help.options.map OptionEntry.description)
            help.subApplets := by
  obtain ⟨help, hparse, rfl, -⟩ := generate_eq_ok_iff.mp hpage
  obtain ⟨-, -, hlisting⟩ := Help.parse_eq_ok_iff.mp hparse
  refine ⟨help, hparse, ?_, ?_⟩
  · rw [← hlisting]
    exact Text.blockBelow_eq_none_iff
  · exact controlLines_render_ofHelp fragments (Help.shaped_of_parse hparse) happlet hplain hdate
      hknown

/-- A help text whose summary, flags, description and listing all try to give orders. -/
def hostileText : Text :=
  "Usage: q .x : .so a\n\nCurrently defined applets:\n'br\n b\n\nOptions: \n.ds * .so c d\n".toList

/-- Of those only the description and the listing reach the formatter. -/
theorem controlLines_generate_hostile :
    '\n' ∉ "q".toList ∧ Roff.isControl "q".toList = false ∧ '\n' ∉ ".de".toList ∧
      (∀ name ∈ ["q".toList, "qlop".toList, "qdu".toList], '\n' ∉ name) ∧
      ∃ page counted help,
        generate ⟨".de".toList, ["q".toList, "qlop".toList, "qdu".toList]⟩ "q".toList hostileText
          ⟨[], [".SH BUGS\nnone".toList]⟩ = .ok (page, counted) ∧
        Help.parse "q".toList hostileText = .ok help ∧
        Roff.controlLines page =
          [".TH q \"1\" \".de\" \"Gentoo Foundation\" \"q\"", ".SH NAME", ".SH SYNOPSIS", ".B q",
            ".SH DESCRIPTION", ".SH OPTIONS", ".TP", ".so c d", ".SH APPLETS", ".nf",
            ".B This applet also has sub applets:", "'br", ".fi", ".SH BUGS",
            ".SH \"REPORTING BUGS\"", ".br", ".SH AUTHORS", ".nf", ".fi", ".SH \"SEE ALSO\"",
            ".BR qdu (1),", ".BR qlop (1)"].map String.toList := by
  have hbreak : '\n' ∉ "q".toList := by decide
  have hplain : Roff.isControl "q".toList = false := by decide
  have hdate : '\n' ∉ ".de".toList := by decide
  have hknown : ∀ name ∈ ["q".toList, "qlop".toList, "qdu".toList], '\n' ∉ name := by decide
  have hparse : Help.parse "q".toList hostileText = .ok ⟨⟨".x".toList, ".so a".toList⟩,
      [⟨[".ds".toList], false, ".so c d".toList⟩], some ["'br".toList, " b".toList]⟩ := by
    rfl
  have hpage := (@generate_eq_ok_iff ⟨".de".toList, ["q".toList, "qlop".toList, "qdu".toList]⟩ _
    hostileText _ ⟨[], [".SH BUGS\nnone".toList]⟩ _).mpr ⟨_, hparse, rfl, rfl⟩
  obtain ⟨help, hhelp, -, hlines⟩ := controlLines_generate hbreak hplain hdate hknown hpage
  have hsame := Except.ok.inj (hparse.symm.trans hhelp)
  refine ⟨hbreak, hplain, hdate, hknown, _, _, help, hpage, hhelp, ?_⟩
  rw [hlines, ← hsame]
  decide

end Page

end Manpage
