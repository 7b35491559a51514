/-
# Files that can be started

What the system makes of a file that is to be started: a native program begins with a mark and goes on
with its name, and a script names its interpreter in its first line.
-/
import Manpage.System.Process

namespace Manpage

/-- What a file is to the system that starts it. -/
inductive Image
  /-- A native program, by name. -/
  | native (name : Text)
  /-- A script with an interpreter, and an argument for it. -/
  | script (interpreter : Text) (arg : Option Text)
  /-- Nothing that can be started. -/
  | unknown
deriving DecidableEq, Repr

namespace Image

/-- What the file of a native program begins with. -/
def nativeMark : Bytes := Utf8.encode "\x7fELF".toList

/-- What the content of a file is to the system that starts it. -/
def ofContent (content : Bytes) : Image :=
  match nativeMark.isPrefixOf? content with
  | some name => .native (Text.ofBytes name)
  | none =>
    match Text.ofBytes (content.take 256) with
    | '#' :: '!' :: text =>
      let isGap (c : Char) : Bool := c == ' ' || c == '\t'
      let line := (text.takeWhile (· ≠ '\n')).dropWhile isGap
      let interpreter := line.takeWhile fun c => !isGap c
      let arg := Text.dropEndWhile isGap ((line.drop interpreter.length).dropWhile isGap)
      if interpreter.isEmpty then .unknown
      else .script interpreter (if arg.isEmpty then none else some arg)
    | _ => .unknown

/-- The content of a file that may be started. -/
def startable (files : Files) (cwd : Location) (path : Text) : Except SystemFault Bytes := do
  match ← files.stat cwd (Text.ofOctets path) with
  | .directory => .error .permissionDenied
  | .file mode content => if mode &&& 0o111 != 0 then .ok content else .error .permissionDenied

/-- The first of several paths that may be started: one that is there and may not be started is
reported only if no other can. -/
def firstStartable (files : Files) (cwd : Location) :
    (fault : SystemFault) → List Text → Except SystemFault (Text × Bytes)
  | fault, [] => .error fault
  | fault, path :: rest =>
    match startable files cwd path with
    | .ok content => .ok (path, content)
    | .error .permissionDenied => firstStartable files cwd .permissionDenied rest
    | .error _ => firstStartable files cwd fault rest

/-- Finds the program of a name: at the path that the name is, or in the directories given. -/
def findProgram (files : Files) (cwd : Location) (dirs : List Text) (name : Text) :
    Except SystemFault (Text × Bytes) :=
  if name.contains '/' then (startable files cwd name).map fun content => (name, content)
  else if name.isEmpty then .error .notFound
  else if Files.nameLimit < name.length then .error .nameTooLong
  else firstStartable files cwd .notFound (dirs.map fun dir => Path.join dir name)

/-- The directories of a search path. -/
def searchPath (s : Text) : List Text :=
  (Text.cutAt (· == ':') s).map fun dir => if dir.isEmpty then ['.'] else dir

end Image

end Manpage
