/-
# Fields

What the value of a word falls apart into: fields at separators and between several values, and the
paths that fields with patterns stand for.  Quotes protect what is inside them, and make a field even
of nothing.
-/
import Manpage.Shell.Pattern
import Manpage.Files.Lookup

namespace Manpage.Shell

/-- A piece of the value of a word. -/
inductive Atom
  /-- A character, whether it is quoted, and whether it may separate fields. -/
  | char (c : Char) (quoted splits : Bool)
  /-- A quotation mark: there is a field here. -/
  | mark
  /-- The boundary between two values between quotes. -/
  | gap
  /-- The boundary between two values outside quotes. -/
  | blank
deriving DecidableEq, Repr

namespace Atom

/-- The atoms of a text. -/
def ofText (quoted splits : Bool) (s : Text) : List Atom := s.map fun c => .char c quoted splits

/-- The characters of atoms with their marks. -/
def marked (atoms : List Atom) : List Marked :=
  atoms.filterMap fun
    | .char c quoted _ => some (c, quoted)
    | .gap | .blank => some (' ', true)
    | .mark => none

/-- The text of atoms. -/
def text (atoms : List Atom) : Text := (marked atoms).map Prod.fst

/-- Whether a separator is white space. -/
def isWhite (c : Char) : Bool := c == ' ' || c == '\t' || c == '\n'

/-- The fields of atoms.  `current` is the field that has begun, its last character first, and
`white` says that white space has just ended one. -/
def fieldsFrom (separators : Text) : (current : Option (List Marked)) → (white : Bool) → List Atom →
    List (List Marked)
  | current, _, [] => (current.map List.reverse).toList
  | current, _, .gap :: rest =>
    (current.getD []).reverse :: fieldsFrom separators none false rest
  | current, white, .blank :: rest =>
    match current with
    | some f => f.reverse :: fieldsFrom separators none true rest
    | none => fieldsFrom separators none white rest
  | current, _, .mark :: rest => fieldsFrom separators (some (current.getD [])) false rest
  | current, white, .char c quoted splits :: rest =>
    if splits && !quoted && separators.contains c then
      match current with
      | some f => f.reverse :: fieldsFrom separators none (isWhite c) rest
      | none =>
        if isWhite c then fieldsFrom separators none white rest
        else if white then fieldsFrom separators none false rest
        else [] :: fieldsFrom separators none false rest
    else fieldsFrom separators (some ((c, quoted) :: current.getD [])) false rest

/-- The fields of atoms. -/
def fields (separators : Text) (atoms : List Atom) : List (List Marked) :=
  fieldsFrom separators none false atoms

/-- Quoted text is one field, whatever is in it. -/
theorem fields_quoted (separators : Text) (s : Text) :
    fields separators (.mark :: ofText true false s) = [s.map fun c => (c, true)] := by
  have go : ∀ (s : Text) (f : List Marked),
      fieldsFrom separators (some f) false (ofText true false s)
        = [f.reverse ++ s.map fun c => (c, true)] := by
    intro s
    induction s with
    | nil => intro f; simp [ofText, fieldsFrom]
    | cons c s ih =>
      intro f
      have := ih ((c, true) :: f)
      simp only [ofText, List.map_cons, fieldsFrom] at this ⊢
      simpa using this
  simpa [fields, fieldsFrom] using go s []

end Atom

/-! ## Paths -/

namespace Paths

/-- The pieces of a word between slashes. -/
def segments : List Marked → List (List Marked)
  | [] => [[]]
  | (c, q) :: rest =>
    if c = '/' then [] :: segments rest
    else
      match segments rest with
      | [] => [[(c, q)]]
      | piece :: more => ((c, q) :: piece) :: more

/-- The text of marked characters. -/
def textOf (word : List Marked) : Text := word.map Prod.fst

/-- A pattern without the backslashes that protect characters. -/
def bare : List Marked → Text
  | [] => []
  | ('\\', false) :: (c, _) :: rest => c :: bare rest
  | (c, _) :: rest => c :: bare rest

/-- Whether a text comes before another, or is the same. -/
def inOrder : Text → Text → Bool
  | [], _ => true
  | _ :: _, [] => false
  | a :: s, b :: t => if a = b then inOrder s t else a.toNat < b.toNat

/-- How paths are looked for. -/
structure Search where
  files : Files
  cwd : Location
  /-- What patterns may hold. -/
  rules : Pattern.Rules
  /-- Whether a pattern with a dot at its beginning stands for a directory itself and the one above. -/
  dots : Bool
  /-- Whether names with a dot at their beginning are found like others. -/
  hidden : Bool
  /-- Whether a field that stands for no path vanishes. -/
  vanishes : Bool
  /-- Whether two stars stand for any number of directories. -/
  deep : Bool

/-- The names in a directory that a piece of a pattern stands for. -/
def namesFor (search : Search) (dir : Text) (piece : List Marked) : List Text :=
  let names := (search.files.listing search.cwd (Text.ofOctets dir)).map Text.octets
  let isThere := search.files.isDirectory search.cwd (Text.ofOctets dir)
  let names := if search.dots && isThere then ['.'] :: ['.', '.'] :: names else names
  let pattern := Pattern.ofMarked search.rules piece
  let wantsDot := match piece with
    | (c, _) :: _ => c == '.'
    | [] => false
  let mayShow (name : Text) : Bool := name.head? != some '.' || wantsDot || search.hidden
  names.filter fun name => mayShow name && Pattern.fits pattern name

/-- The paths below a directory, down to a depth: of directories only, or of everything. -/
def below (search : Search) (onlyDirectories : Bool) : (depth : Nat) → (dir : Text) → (front : Text) →
    List Text
  | 0, _, _ => []
  | depth + 1, dir, front =>
    (namesFor search dir [('*', false)]).flatMap fun name =>
      let path := front ++ name
      let isDirectory := search.files.isDirectory search.cwd (Text.ofOctets path)
      if isDirectory then path :: below search onlyDirectories depth path (path ++ ['/'])
      else if onlyDirectories then [] else [path]

/-- Goes one piece further along all ways; `started` says that a way is not at its beginning, and `last`
that no other piece follows. -/
def step (search : Search) (ways : List (Text × Bool)) (piece : List Marked) (last : Bool) :
    List (Text × Bool) :=
  ways.flatMap fun (way, started) =>
    let extend (name : Text) : Text := if started then way ++ '/' :: name else name
    if search.deep && piece == [('*', false), ('*', false)] then
      let front := if started then way ++ ['/'] else []
      let itself := if last then (if started then [(front, true)] else []) else [(way, started)]
      let dir := if started then (if way = [] then ['/'] else way) else ['.']
      itself ++ (below search (!last) 1000 dir front).map fun path => (path, true)
    else if Pattern.isPattern search.rules piece then
      let dir := if started then (if way = [] then ['/'] else way) else ['.']
      (namesFor search dir piece).map fun name => (extend name, true)
    else [(extend (bare piece), true)]

/-- Goes along all pieces. -/
def walk (search : Search) : (ways : List (Text × Bool)) → List (List Marked) → List (Text × Bool)
  | ways, [] => ways
  | ways, piece :: rest => walk search (step search ways piece rest.isEmpty) rest

/-- The paths that a word with a pattern stands for, in order; none when nothing fits. -/
def found (search : Search) (word : List Marked) : List Text :=
  let ways := walk search [([], false)] (segments word)
  let paths := (ways.map Prod.fst).filter fun path =>
    search.files.exists? search.cwd (Text.ofOctets path)
  paths.mergeSort inOrder

/-- The arguments that a field stands for. -/
def arguments (search : Search) (field : List Marked) : List Text :=
  if Pattern.isPattern search.rules field then
    match found search field with
    | [] => if search.vanishes then [] else [textOf field]
    | paths => paths
  else [textOf field]

/-- Whether a field is a pattern that stands for no path. -/
def isUnmatched (search : Search) (field : List Marked) : Bool :=
  Pattern.isPattern search.rules field && (found search field).isEmpty

end Paths

end Manpage.Shell
