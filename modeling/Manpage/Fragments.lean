/-
# Where fragments are found

The fragments of an applet lie in one directory: its description in `<applet>.desc`, and a further
section in each `<applet>-<anything>.include`.  Names are taken literally, whatever characters
they hold; only the part between the hyphen and the ending is free, and it may be empty.

The way to the directory is followed one piece at a time and written down without the dot it may
begin with.  An empty piece directly after that dot leads nowhere, so a directory given as `./` has
no further sections, and one given as the empty text has them in the root.
-/
import Manpage.Files.Lookup
import Manpage.Page.Basic

namespace Manpage.Fragments

/-! ## 1. Names -/

/-- The path of an applet's description. -/
def descriptionPath (dir applet : Text) : Text := Path.join dir (applet ++ ".desc".toList)

/-- What the names of further sections end in. -/
def includeEnding : Text := ".include".toList

/-- Whether a name is that of a further section of an applet. -/
def isInclude (applet name : Text) : Bool :=
  match (applet ++ ['-']).isPrefixOf? name with
  | some rest => includeEnding.isSuffixOf rest
  | none => false

/-! ## 2. The way to the directory -/

/-- The path of what has a name in a directory; the working directory is not written down. -/
def below (way name : Text) : Text := if way = ['.'] then name else Path.join way name

/-- One piece further on the way, if it leads anywhere. -/
def follow (files : Files) (cwd : Location) (way piece : Text) : Option Text :=
  if piece = ['.'] ∨ piece = ['.', '.'] then
    if files.isDirectory cwd way then some (below way piece) else none
  else if files.exists? cwd (below way piece) then some (below way piece) else none

/-- Where the further sections of an applet would be: the way there, and what their names begin
with before the hyphen. -/
def search (dir applet : Text) : Text × List Text × Text :=
  let whole := dir ++ '/' :: applet
  let (start, body) : Text × Text :=
    if Path.isAbsolute whole then (['/'], whole.tail) else (['.'], whole)
  let pieces := Path.pieces body
  (start, pieces.dropLast, pieces.getLast?.getD [])

/-- The paths of the further sections of an applet, in the order of their names. -/
def includePaths (files : Files) (cwd : Location) (dir applet : Text) : List Text :=
  let (start, pieces, stem) := search dir applet
  match pieces.foldlM (follow files cwd) start with
  | none => []
  | some way => ((files.listing cwd way).filter (isInclude stem)).map (below way)

/-! ## 3. Their content -/

/-- A description without the white space at its end. -/
def ofDescription (text : Text) : Text := Text.trimEnd text

/-- A further section: its lines, each without the white space at its end. -/
def ofInclude (text : Text) : Text := Text.unlines ((Text.lines text).map Text.trimEnd)

end Manpage.Fragments
