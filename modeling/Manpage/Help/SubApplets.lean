/-
# The listing of sub applets

An applet that has applets of its own lists them below the line `Currently defined applets:`, up
to a blank line or the end of the help text.  The lines are kept as they are.
-/
import Manpage.Text.Line

namespace Manpage.SubApplets

/-- The line above the listing. -/
def marker : Text := "Currently defined applets:".toList

/-- A line is the marker whatever white space follows it. -/
def isMarker (line : Text) : Bool := Text.trimEnd line == marker

/-- The lines of the listing; `none` when the applet has no sub applets. -/
def listing? (help : Text) : Option (List Text) := Text.blockBelow isMarker help

end Manpage.SubApplets
