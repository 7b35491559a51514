/-
# Help text that does not follow the format

A page is made only from help text that follows the expected format; where it departs from it, the
page is refused with the offending line.
-/
import Manpage.Text.Quoted

namespace Manpage

/-- What is wrong with a help text. -/
inductive Departure
  /-- No line gives the usage of the applet. -/
  | noUsageLine
  /-- A line of the options block has no words. -/
  | emptyOptionLine
  /-- A line of the options block lacks the mark that begins its description. -/
  | noDescriptionMark
deriving DecidableEq, Repr

/-- The wording of a departure. -/
def Departure.wording : Departure → Text
  | .noUsageLine => "no usage line".toList
  | .emptyOptionLine => "empty option line".toList
  | .noDescriptionMark => "missing \x60*\x60 before description".toList

/-- A help text that is refused: whose it is, the line that shows it, and what is wrong. -/
structure Malformed where
  applet : Text
  line : Text
  departure : Departure
deriving DecidableEq, Repr

/-- The message that reports a refused help text. -/
def Malformed.message (m : Malformed) : Text :=
  "help text for ".toList ++ m.applet ++ " is malformed (".toList ++ m.departure.wording
    ++ "): ".toList ++ Text.quoted m.line

end Manpage
