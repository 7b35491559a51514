/-
# The usage line

The line `Usage: <applet> <usage> : <description>` gives how an applet is called and, in a few
words, what it does.  The first such line counts, lines that begin in the same way but have no
separator are passed over, and of several separators the last one divides.
-/
import Manpage.Text.Line
import Manpage.Help.Malformed

namespace Manpage

/-- How an applet is called and what it does. -/
structure Usage where
  /-- What follows the applet's name on its usage line, up to the separator. -/
  synopsis : Text
  /-- What follows the separator, without the white space at its end. -/
  summary : Text
deriving DecidableEq, Repr

namespace Usage

/-- What a usage line begins with. -/
def marker : Text := "Usage: ".toList

/-- What stands between synopsis and summary. -/
def separator : Text := " : ".toList

/-- Reads the usage at the start of a line: the marker, the applet's name and a space, then the
rest of the line with a separator in it. -/
def atLineStart? (applet text : Text) : Option Usage :=
  match (marker ++ applet ++ [' ']).isPrefixOf? text with
  | none => none
  | some rest =>
    (Text.cutAtLast separator (Text.restOfLine rest)).map
      fun (synopsis, summary) => ⟨synopsis, Text.trimEnd summary⟩

/-- The usage that the first usage line of the applet gives. -/
def find? (applet help : Text) : Option Usage :=
  (Text.lineStarts help).findSome? (atLineStart? applet)

/-- The usage, or a refusal that quotes the first line of the help text. -/
def ofHelp (applet help : Text) : Except Malformed Usage :=
  match find? applet help with
  | some usage => .ok usage
  | none => .error ⟨applet, Text.firstLine help, .noUsageLine⟩

end Usage

end Manpage
