/-
# The layout of a page

Where each part of a page stands.  The layout is fixed; what differs from page to page is put
between its lines as it is.
-/
import Manpage.Text.Line

namespace Manpage

/-- The parts of a page, already in roff where they hold requests. -/
structure Page where
  applet : Text
  date : Text
  /-- What the applet does, in a few words. -/
  summary : Text
  /-- How the applet is called, after its name. -/
  synopsis : Text
  /-- The long description. -/
  description : Text
  /-- The tagged paragraphs of the options. -/
  options : Text
  /-- The lines of further sections. -/
  sections : List Text
  /-- The references to other pages. -/
  seeAlso : List Text
deriving DecidableEq, Repr

namespace Page

/-- The title line: name, manual section, date, source and name again. -/
def title (page : Page) : Text :=
  ".TH ".toList ++ page.applet ++ " \"1\" \"".toList ++ page.date
    ++ "\" \"Gentoo Foundation\" \"".toList ++ page.applet ++ "\"".toList

/-- Where faults are reported and who wrote the tools, the same on every page. -/
def closing : List Text :=
  [".SH \"REPORTING BUGS\"".toList,
   "Please report bugs via http://bugs.gentoo.org/".toList,
   ".br".toList,
   "Product: Portage Development; Component: Tools".toList,
   ".SH AUTHORS".toList,
   ".nf".toList,
   "Ned Ludd <solar@gentoo.org>".toList,
   "Mike Frysinger <vapier@gentoo.org>".toList,
   ".fi".toList]

/-- The parts of a page from top to bottom; a part may be empty or hold several lines. -/
def parts (page : Page) : List Text :=
  [page.title,
   ".SH NAME".toList,
   page.applet ++ " \\- ".toList ++ page.summary,
   ".SH SYNOPSIS".toList,
   ".B ".toList ++ page.applet,
   "\\fI".toList ++ page.synopsis ++ "\\fR".toList,
   ".SH DESCRIPTION".toList,
   page.description,
   ".SH OPTIONS".toList,
   page.options,
   Text.unlines page.sections]
  ++ closing
  ++ [".SH \"SEE ALSO\"".toList,
      Text.join [',', '\n'] page.seeAlso]

/-- The page as a text, each part ended by a line feed. -/
def render (page : Page) : Text := page.parts.flatMap (· ++ ['\n'])

end Page

end Manpage
