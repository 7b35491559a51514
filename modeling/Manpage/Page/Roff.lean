/-
# Options and listings as roff

An option becomes a tagged paragraph of three lines: the request, the flags in bold, and the
description.  A hyphen in a flag is written as a minus sign, so that it can be copied from the
formatted page.
-/
import Manpage.Help.OptionEntry

namespace Manpage.Roff

/-- A text with each hyphen as a minus sign. -/
def minus (s : Text) : Text := s.flatMap fun c => if c = '-' then ['\\', '-'] else [c]

/-- A text in bold. -/
def bold (s : Text) : Text := "\\fB".toList ++ s ++ "\\fR".toList

/-- The name of an argument in italics, after the flag that takes it. -/
def argument : Text := " \\fI<arg>\\fR".toList

/-- The flags of an option, separated by commas. -/
def flagLine (option : OptionEntry) : Text :=
  minus (Text.join [',', ' '] (option.flags.map fun flag =>
    if option.takesArgument then bold flag ++ argument else bold flag))

/-- The tagged paragraph of an option. -/
def paragraph (option : OptionEntry) : List Text :=
  [".TP".toList, flagLine option, option.description]

/-- The tagged paragraphs of all options. -/
def options (entries : List OptionEntry) : Text := Text.unlines (entries.flatMap paragraph)

/-- The section that lists the sub applets, unfilled so that the lines stay as they are. -/
def subAppletsSection (listing : List Text) : List Text :=
  [".SH APPLETS".toList, ".nf".toList, ".B This applet also has sub applets:".toList]
    ++ listing ++ [".fi".toList]

end Manpage.Roff
