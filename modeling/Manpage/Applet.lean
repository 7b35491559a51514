/-
# Applet names

An applet may be named by itself or by the path of its page: `qfile`, `qfile.1` and `man/qfile.1`
all name `qfile`.  What counts is the last piece of the path that leads somewhere, up to its first
dot.  A list of names, whether it comes from the command line or from the output of a command, is
brought into increasing order with each name once.
-/
import Manpage.Path
import Manpage.Text.Line
import Manpage.Text.Ordered

namespace Manpage.Applet

/-- The part of a file name before its first dot. -/
def stem (name : Text) : Text := name.takeWhile (· ≠ '.')

/-- The applet that a name or a path names; `none` when nothing is left of it. -/
def nameOf? (arg : Text) : Option Text :=
  match (Path.names arg).getLast? with
  | none => none
  | some name => if stem name = [] then none else some (stem name)

/-- The applets that the arguments name, each once, in increasing order. -/
def normalize (args : List Text) : List Text := Text.ordered (args.filterMap nameOf?)

/-- The applets listed in a text, one on each line that is not blank. -/
def ofListing (output : Text) : List Text :=
  normalize (((Text.lines output).map Text.trim).filter (· ≠ []))

/-- An applet name as `normalize` leaves it: not empty, without a slash and without a dot. -/
def IsNormal (name : Text) : Prop := name ≠ [] ∧ '/' ∉ name ∧ '.' ∉ name

instance (name : Text) : Decidable (IsNormal name) := by unfold IsNormal; infer_instance

end Manpage.Applet
