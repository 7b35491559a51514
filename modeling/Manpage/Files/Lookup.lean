/-
# Where a path leads

A path is followed piece by piece: from the root if it is absolute, else from the working
directory.  Every piece, a dot and an empty one too, is looked up in a directory, so a path through
a file or with a slash behind one leads nowhere.  What a path leads to need not exist; only the
directories on the way must.
-/
import Manpage.Files.Basic
import Manpage.Files.Fault
import Manpage.Path

namespace Manpage.Files

/-- The longest name, in bytes. -/
def nameLimit : Nat := 255

/-- The longest path, in bytes. -/
def pathLimit : Nat := 4095

/-- Follows the pieces of a path from a location. -/
def walk (files : Files) : Location → List Text → Except SystemFault Location
  | l, [] => .ok l
  | l, piece :: rest =>
    match files.get? l with
    | none => .error .notFound
    | some (.file ..) => .error .notDirectory
    | some .directory =>
      if Path.isIdle piece then walk files l rest
      else if piece = ['.', '.'] then walk files l.dropLast rest
      else if nameLimit < (Utf8.encode piece).length then .error .nameTooLong
      else walk files (l ++ [piece]) rest

/-- A way may be gone in two parts. -/
theorem walk_append (files : Files) (l : Location) (ps qs : List Text) :
    files.walk l (ps ++ qs) = files.walk l ps >>= fun m => files.walk m qs := by
  induction ps generalizing l with
  | nil => rfl
  | cons p ps ih =>
    rw [List.cons_append, walk, walk]
    split
    · rfl
    · rfl
    · split
      · exact ih l
      · split
        · exact ih l.dropLast
        · split
          · rfl
          · exact ih (l ++ [p])

/-- Where a path begins. -/
def origin (cwd : Location) (path : Text) : Location := if Path.isAbsolute path then [] else cwd

/-- Refuses what is no path at all. -/
def checkPath (path : Text) : Except SystemFault Unit :=
  if '\x00' ∈ path then .error .nulInPath
  else if path = [] then .error .notFound
  else if pathLimit < (Utf8.encode path).length then .error .nameTooLong
  else .ok ()

/-- The location that a path leads to. -/
def locate (files : Files) (cwd : Location) (path : Text) : Except SystemFault Location := do
  checkPath path
  files.walk (origin cwd path) (Path.pieces path)

/-- What a path leads to, which must exist. -/
def stat (files : Files) (cwd : Location) (path : Text) : Except SystemFault Entry := do
  match files.get? (← files.locate cwd path) with
  | none => .error .notFound
  | some entry => .ok entry

/-- Whether a path leads to a directory. -/
def isDirectory (files : Files) (cwd : Location) (path : Text) : Bool :=
  match files.stat cwd path with
  | .ok entry => entry.isDirectory
  | .error _ => false

/-- Whether a path leads anywhere. -/
def exists? (files : Files) (cwd : Location) (path : Text) : Bool :=
  match files.stat cwd path with
  | .ok _ => true
  | .error _ => false

/-- The bytes of a file. -/
def readBytes (files : Files) (cwd : Location) (path : Text) : Except SystemFault Bytes := do
  match ← files.stat cwd path with
  | .directory => .error .isDirectory
  | .file _ content => .ok content

/-- The text of a file. -/
def readText (files : Files) (cwd : Location) (path : Text) : Except SystemFault Text := do
  match Utf8.decode? (← files.readBytes cwd path) with
  | some text => .ok text
  | none => .error .notText

/-- The names of what the directory at a path holds, in increasing order; none if it is none. -/
def listing (files : Files) (cwd : Location) (path : Text) : List Text :=
  match files.locate cwd path with
  | .ok l => if files.get? l = some .directory then files.namesIn l else []
  | .error _ => []

end Manpage.Files
