/-
# Paths as texts

A path is kept as it was given and never tidied, because messages show it that way.  What it means
is read off its pieces between slashes: an empty piece or a `.` leads nowhere, except that a `.` at
the very beginning is a step of its own when the parent of a path is taken.

* `names` are the pieces that lead somewhere, `fileName?` the last of them;
* `parent?` cuts the last step off and keeps the rest as it was written;
* `join` puts a path below a directory.
-/
import Manpage.Text.Basic

namespace Manpage.Path

/-- A slash ends a piece of a path. -/
def isSlash (c : Char) : Bool := c == '/'

/-- The pieces of a path between its slashes, empty ones included. -/
def pieces (path : Text) : List Text := Text.cutAt isSlash path

/-- A piece that leads nowhere: nothing, or a single dot. -/
def isIdle (piece : Text) : Bool := piece == [] || piece == ['.']

/-- A path from the root and not from the working directory. -/
def isAbsolute (path : Text) : Bool := path.head? == some '/'

/-- The pieces that lead somewhere. -/
def names (path : Text) : List Text := (pieces path).filter (fun piece => !isIdle piece)

/-- The name of what a path leads to; a path that ends in `..` gives none. -/
def fileName? (path : Text) : Option Text :=
  match (names path).getLast? with
  | some name => if name = ['.', '.'] then none else some name
  | none => none

/-- The path of the directory that holds what `path` leads to, or `none` for a path without a
step.  It is empty when the path is one step from the working directory. -/
def parent? (path : Text) : Option Text :=
  match pieces path with
  | [] => none
  | first :: rest =>
    match rest.reverse.dropWhile isIdle with
    | [] => if first = [] then none else some []
    | _ :: before =>
      let kept := (before.dropWhile isIdle).reverse
      if first = [] ∧ kept = [] then some ['/'] else some (Text.join ['/'] (first :: kept))

/-- `name` below the directory `dir`; an absolute `name` stays as it is. -/
def join (dir name : Text) : Text :=
  if isAbsolute name then name
  else if dir = [] ∨ dir.getLast? = some '/' then dir ++ name
  else dir ++ '/' :: name

end Manpage.Path
