/-
# The lines of a text

Two notions of a line are in use.  `lines` ends a line at a line feed, together with the carriage
return before it, and has no empty line after the last line feed.  `lineStarts` gives the rest of
the text from the start of each line, where only a line feed ends a line; a search that may look
past the end of its first line works on these.
-/
import Manpage.Text.Basic

namespace Manpage.Text

/-- Only a line feed ends a line. -/
def isBreak (c : Char) : Bool := c == '\n'

/-! ## 1. Lines with their ends taken off -/

/-- The text without one carriage return at its end. -/
def dropReturn (s : Text) : Text := if s.getLast? = some '\r' then s.dropLast else s

/-- The pieces between line feeds as lines: all but the last piece were ended by a line feed, and
the last is a line only if it is not empty. -/
def linesOfPieces : List Text → List Text
  | [] => []
  | [last] => if last = [] then [] else [last]
  | piece :: next :: rest => dropReturn piece :: linesOfPieces (next :: rest)

/-- The lines of a text, each without the line feed that ends it and without a carriage return
directly before that line feed. -/
def lines (s : Text) : List Text := linesOfPieces (cutAt isBreak s)

/-- The first line of a text; empty when the text has no line. -/
def firstLine (s : Text) : Text := (lines s).headD []

/-- The lines one below the other. -/
def unlines (ls : List Text) : Text := join ['\n'] ls

/-! ## 2. The rest of the text from each line on -/

/-- What follows each line feed, up to the end of the text. -/
def afterBreaks : Text → List Text
  | [] => []
  | c :: s => if isBreak c then s :: afterBreaks s else afterBreaks s

/-- The rest of the text from the start of each line. -/
def lineStarts (s : Text) : List Text := s :: afterBreaks s

/-- What stands before the next line feed. -/
def restOfLine (s : Text) : Text := s.takeWhile (fun c => !isBreak c)

/-! ## 3. Blocks of lines -/

/-- The lines below the first line that `marks` holds of, up to the first blank line or the end
of the text; `none` when no line is marked. -/
def blockBelow (marks : Text → Bool) (s : Text) : Option (List Text) :=
  match (lines s).dropWhile (fun line => !marks line) with
  | [] => none
  | _ :: below => some (below.takeWhile (fun line => !blank line))

end Manpage.Text
