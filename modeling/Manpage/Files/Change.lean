/-
# Changes to a tree of files

Making directories, and replacing a file in one step: its new content is staged in a file of its
own beside it and then renamed, so that nobody sees half of it.  Each change says in which order
the system checks what could be wrong, and leaves the tree as it was when it is refused.
-/
import Manpage.Files.Lookup

namespace Manpage.Files

/-! ## 1. The place of a new entry -/

/-- The pieces of a path without empty ones at the end, and whether there were any. -/
def splitTrailing (pieces : List Text) : List Text × Bool :=
  let kept := (pieces.reverse.dropWhile (· == [])).reverse
  (kept, kept.length < pieces.length)

/-- Where the last piece of a path would go. -/
inductive Place
  /-- A name in a directory, and whether slashes follow it in the path. -/
  | entry (dir : Location) (name : Text) (slashes : Bool)
  /-- A path whose last piece is a dot or two, or that has none. -/
  | noName
deriving DecidableEq, Repr

/-- Looks up the directory in which the last piece of a path stands. -/
def place (files : Files) (cwd : Location) (path : Text) : Except SystemFault Place := do
  checkPath path
  let (pieces, slashes) := splitTrailing (Path.pieces path)
  match pieces.getLast? with
  | none => return .noName
  | some name =>
    -- the empty piece makes sure that the way ends in a directory
    let dir ← files.walk (origin cwd path) (pieces.dropLast ++ [[]])
    if name = ['.'] ∨ name = ['.', '.'] then return .noName
    else if nameLimit < (Utf8.encode name).length then .error .nameTooLong
    else return .entry dir name slashes

/-! ## 2. Directories -/

/-- Makes one directory. -/
def makeDirectory (files : Files) (cwd : Location) (path : Text) : Except SystemFault Files := do
  match ← files.place cwd path with
  | .noName => .error .exists
  | .entry dir name _ =>
    match files.get? (dir ++ [name]) with
    | some _ => .error .exists
    | none => return files.put (dir ++ [name]) .directory

/-- Makes one directory, or finds it there. -/
def ensureDirectory (files : Files) (cwd : Location) (path : Text) :
    Except SystemFault Unit × Files :=
  match files.makeDirectory cwd path with
  | .ok files => (.ok (), files)
  | .error fault => (if files.isDirectory cwd path then .ok () else .error fault, files)

/-- Makes a directory and before it those above it that are missing.  What has been made stays when
a later step is refused.  `fuel` bounds the number of steps up. -/
def ensureAbove : (fuel : Nat) → Files → (cwd : Location) → (path : Text) →
    Except SystemFault Unit × Files
  | 0, files, cwd, path => files.ensureDirectory cwd path
  | fuel + 1, files, cwd, path =>
    match files.makeDirectory cwd path with
    | .ok files => (.ok (), files)
    | .error .notFound =>
      match Path.parent? path with
      | none => (.error .notFound, files)
      | some above =>
        if above = [] then files.ensureDirectory cwd path
        else
          match ensureAbove fuel files cwd above with
          | (.ok (), files) => files.ensureDirectory cwd path
          | (.error fault, files) => (.error fault, files)
    | .error fault => (if files.isDirectory cwd path then .ok () else .error fault, files)

/-- Makes a directory with all those above it. -/
def makeDirectories (files : Files) (cwd : Location) (path : Text) :
    Except SystemFault Unit × Files :=
  files.ensureAbove path.length cwd path

/-! ## 3. Staged files -/

/-- The name of the staged file with a number, for a file of the name `tag`. -/
def stagedName (number : Nat) (tag : Text) : Text :=
  ".mkman-".toList ++ Text.ofNat number ++ '-' :: tag ++ ".tmp".toList

/-- The first number whose staged file does not exist yet. -/
def freeNumber (files : Files) (dir : Location) (tag : Text) : Nat :=
  ((List.range (files.entries.length + 1)).find? fun n =>
    files.get? (dir ++ [stagedName n tag]) = none).getD 0

/-- Makes an empty staged file in a directory, for the owner alone, and gives its location. -/
def stage (files : Files) (cwd : Location) (dir tag : Text) :
    Except SystemFault Location × Files :=
  match files.locate cwd dir with
  | .error fault => (.error fault, files)
  | .ok l =>
    match files.get? l with
    | none => (.error .notFound, files)
    | some (.file ..) => (.error .notDirectory, files)
    | some .directory =>
      let staged := l ++ [stagedName (files.freeNumber l tag) tag]
      (.ok staged, files.put staged (.file 0o600 []))

/-- The tree with new content in the file at a location. -/
def write (files : Files) (l : Location) (content : Bytes) : Files :=
  match files.get? l with
  | some (.file mode _) => files.put l (.file mode content)
  | _ => files

/-- The tree with other permission bits on the file at a location. -/
def setMode (files : Files) (l : Location) (mode : Nat) : Files :=
  match files.get? l with
  | some (.file _ content) => files.put l (.file mode content)
  | _ => files

/-- Renames the file at a location to a path, in place of a file that is there.  A path that no
file can have is refused as an argument. -/
def rename (files : Files) (source : Location) (cwd : Location) (path : Text) :
    Except SystemFault Unit × Files :=
  if '\x00' ∈ path then (.error .invalidArgument, files)
  else
  match files.place cwd path with
  | .error fault => (.error fault, files)
  | .ok .noName => (.error .busy, files)
  | .ok (.entry dir name slashes) =>
    if slashes then (.error .notDirectory, files)
    else
      match files.get? source, files.get? (dir ++ [name]) with
      | none, _ => (.error .notFound, files)
      | some _, some .directory => (.error .isDirectory, files)
      | some moved, _ => (.ok (), (files.erase source).put (dir ++ [name]) moved)

end Manpage.Files
