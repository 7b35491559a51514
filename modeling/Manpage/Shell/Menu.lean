/-
# Menus

The lines in which a shell offers numbered choices: they are set in columns that go down first, as many
as fit the width of a screen.
-/
import Manpage.Text.Octets

namespace Manpage.Shell.Menu

/-- The width of a screen. -/
def screenWidth : Nat := 80

/-- How many digits a number has. -/
def digitCount (n : Nat) : Nat := (Text.ofNat n).length

/-- White space from one column to another, with a tab for each stop on the way; the fuel is the
distance. -/
def indent (goal : Nat) : (fuel : Nat) → (column : Nat) → Text
  | 0, _ => []
  | fuel + 1, column =>
    if goal ≤ column then []
    else if column / 8 < goal / 8 then '\t' :: indent goal fuel (column + 8 - column % 8)
    else ' ' :: indent goal fuel (column + 1)

/-- A number at the right end of a column. -/
def numberText (width n : Nat) : Text :=
  let digits := Text.ofNat n
  List.replicate (width - digits.length) ' ' ++ digits

/-- The choices of a row from a column on, each with its number; `width` is that of the numbers. -/
def rowFrom (choices : List Text) (rows wide narrow size : Nat) :
    (fuel : Nat) → (index column : Nat) → Text
  | 0, _, _ => []
  | fuel + 1, index, column =>
    let width := if column = 0 then narrow else wide
    let choice := (choices[index]?).getD []
    let here := numberText width (index + 1) ++ ") ".toList ++ choice
    if choices.length ≤ index + rows then here
    else
      here ++ indent (column + size) size (column + here.length)
        ++ rowFrom choices rows wide narrow size fuel (index + rows) (column + size)

/-- The lines that offer choices. -/
def text (choices : List Text) : Text :=
  let count := choices.length
  let wide := digitCount count
  let longest := (choices.map List.length).foldl max 0
  let size := longest + wide + 4
  let columns := max (screenWidth / size) 1
  let rows := count / columns + (if count % columns = 0 then 0 else 1)
  let columns := count / rows + (if count % rows = 0 then 0 else 1)
  let rows := if rows = 1 then columns else rows
  (List.range rows).flatMap fun row =>
    rowFrom choices rows wide (digitCount rows) size (count + 1) row 0 ++ ['\n']

end Manpage.Shell.Menu
