/-
# What a help text says

The record that a help text is read into before anything is written: the usage, the options, and
the listing of sub applets if there is one.  A help text that departs from the format in its usage
line or in an option line is refused, the usage line first.
-/
import Manpage.Help.Usage
import Manpage.Help.OptionEntry
import Manpage.Help.SubApplets

namespace Manpage

/-- What the help text of an applet says. -/
structure Help where
  usage : Usage
  options : List OptionEntry
  /-- The listing of sub applets; a listing may be empty. -/
  subApplets : Option (List Text)
deriving DecidableEq, Repr

/-- Reads the help text of an applet. -/
def Help.parse (applet text : Text) : Except Malformed Help := do
  let usage ← Usage.ofHelp applet text
  let options ← OptionEntry.listOfHelp applet text
  return ⟨usage, options, SubApplets.listing? text⟩

end Manpage
