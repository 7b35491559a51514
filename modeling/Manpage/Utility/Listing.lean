/-
# Listing directories

The names in directories in some order, in lines or in columns, with marks and headings.
-/
import Manpage.Utility.Names
import Manpage.Utility.Sorting

namespace Manpage.Utility

/-! ## 1. Order and form -/

/-- What the order of names goes by. -/
inductive ListingOrder
  | name | size | extension | version | width
  /-- The order in which they are found. -/
  | none
deriving DecidableEq, Repr

/-- How names stand: one on each line, with commas, or in columns that are filled downwards or across. -/
inductive ListingForm
  | lines | commas | down | across
deriving DecidableEq, Repr

/-- How names are listed. -/
structure ListingPlan where
  hidden : Bool
  dots : Bool
  directories : Bool
  markDirectories : Bool
  classify : Bool
  reverse : Bool
  recursive : Bool
  order : ListingOrder
  form : ListingForm
  /-- The length of a line; without one everything stands on one line. -/
  width : Option Nat
  /-- The distance of tabs between columns; without tabs there are only blanks. -/
  tabs : Nat
  mark : Char
  directoriesFirst : Bool
  quoted : Bool
  ignored : List Text

/-- Blanks and tabs from a column to another. -/
def gap (tabs : Nat) : (fuel : Nat) → (column stop : Nat) → Text
  | 0, _, _ => []
  | fuel + 1, column, stop =>
    if stop ≤ column then []
    else if tabs ≠ 0 ∧ (column + 1) / tabs < stop / tabs then
      '\t' :: gap tabs fuel (column + tabs - column % tabs) stop
    else ' ' :: gap tabs fuel (column + 1) stop

/-- The ending of a name from its last dot on. -/
def extension (name : Text) : Text :=
  let ending := (name.reverse.takeWhile (· != '.')).reverse
  if ending.length = name.length then [] else '.' :: ending

namespace ListingPlan

/-- The sign behind a name. -/
def sign (plan : ListingPlan) (e : Entry) : Text :=
  match e with
  | .directory => if plan.markDirectories || plan.classify then ['/'] else []
  | .file mode _ => if plan.classify && mode &&& 0o111 != 0 then ['*'] else []

/-- A name as it is listed. -/
def shown (plan : ListingPlan) (name : Text) (e : Entry) : Text :=
  (if plan.quoted then '"' :: name ++ ['"'] else name) ++ plan.sign e

/-- Names in order; names that are equal in it are in the order of their bytes. -/
def ordered (plan : ListingPlan) (names : List (Text × Entry)) : List (Text × Entry) :=
  let size (e : Entry) : Nat := match e with
    | .file _ content => content.length
    | .directory => 4096
  let atMost (a b : Text × Entry) : Bool := match plan.order with
    | .size => size b.2 ≤ size a.2
    | .extension => compareTexts (extension a.1) (extension b.1) != .gt
    | .version => compareKeys { KeyManner.plain with version := true } a.1 b.1 != .gt
    | .width => a.1.length ≤ b.1.length
    | .name | .none => true
  let names := names.mergeSort atMost
  let names := if plan.reverse then names.reverse else names
  if plan.directoriesFirst then
    names.filter (·.2.isDirectory) ++ names.filter fun x => !x.2.isDirectory
  else names

/-- The width of each of so many columns, with the blanks behind it. -/
def columnWidths (down : Bool) (columns : Nat) (lengths : List Nat) : List Nat :=
  let rows := (lengths.length + columns - 1) / columns
  let columnOf (i : Nat) : Nat := if down then i / rows else i % columns
  let empty := List.replicate columns 3
  lengths.zipIdx.foldl (fun widths (length, i) =>
    let column := columnOf i
    let own := length + if column + 1 = columns then 0 else 2
    widths.modify column (max own)) empty

/-- Names in as many columns as there is room for in a line. -/
def inColumns (plan : ListingPlan) (width : Nat) (down : Bool) (names : List Text) : Text :=
  let lengths := names.map List.length
  let most := max 1 (min names.length (width / 3 + if width % 3 = 0 then 0 else 1))
  let fits (columns : Nat) : Bool := (columnWidths down columns lengths).foldl (· + ·) 0 < width
  let columns := (((List.range most).map (· + 1)).reverse.find? fits).getD 1
  let widths := columnWidths down columns lengths
  let rows := (names.length + columns - 1) / columns
  let at? (row column : Nat) : Option Text :=
    names[if down then column * rows + row else row * columns + column]?
  let rowText (row : Nat) : Text :=
    let cells := (List.range columns).filterMap fun column =>
      (at? row column).map fun name => (name, (widths.take column).foldl (· + ·) 0)
    let (text, _) := cells.foldl (fun (text, column) (name, start) =>
      (text ++ gap plan.tabs (start + 1) column start ++ name, start + name.length))
      (([] : Text), 0)
    text ++ [plan.mark]
  (List.range rows).flatMap rowText

/-- Names with commas between them, in lines. -/
def withCommas (plan : ListingPlan) : (column : Nat) → (first : Bool) → List Text → Text
  | _, _, [] => [plan.mark]
  | column, true, name :: rest => name ++ withCommas plan (column + name.length) false rest
  | column, false, name :: rest =>
    let fits : Bool := match plan.width with
      | some width => column + name.length + 2 < width
      | none => true
    if fits then ", ".toList ++ name ++ withCommas plan (column + 2 + name.length) false rest
    else [',', plan.mark] ++ name ++ withCommas plan name.length false rest

/-- Names in the form that is asked for. -/
def lines (plan : ListingPlan) (names : List Text) : Text :=
  if names.isEmpty then []
  else match plan.form with
    | .lines => names.flatMap (· ++ [plan.mark])
    | .commas => plan.withCommas 0 true names
    | .down | .across =>
      match plan.width with
      | some width => plan.inColumns width (plan.form == .down) names
      | none => Text.join [' ', ' '] names ++ [plan.mark]

end ListingPlan

/-! ## 2. Directories -/

/-- Whether a name fits a simple pattern with stars. -/
def fitsStars : Text → Text → Bool
  | [], [] => true
  | [], _ :: _ => false
  | '*' :: p, [] => fitsStars p []
  | '*' :: p, c :: s => fitsStars p (c :: s) || fitsStars ('*' :: p) s
  | _ :: _, [] => false
  | a :: p, c :: s => (a == c || a == '?') && fitsStars p s
termination_by p s => p.length + s.length

/-- The names of a directory, in order. -/
def namesInDirectory (plan : ListingPlan) (path : Text) : Work (List (Text × Entry)) := do
  let files ← Work.files
  match files.locate (← get).cwd (Text.ofOctets path) with
  | .error _ => return []
  | .ok l =>
    let all := (files.namesIn l).map Text.octets
    let wanted := all.filter fun n =>
      (plan.hidden || plan.dots || n.head? != some '.')
        && !(plan.ignored.any fun p => fitsStars p n)
    let entries := wanted.filterMap fun n => (files.get? (l ++ [Text.ofOctets n])).map (n, ·)
    let entries := if plan.dots then
        (['.'], Entry.directory) :: (['.', '.'], Entry.directory) :: entries
      else entries
    return plan.ordered entries

/-- Lists a directory, and those in it if asked for. -/
def listDirectory (plan : ListingPlan) : (fuel : Nat) → (headed first : Bool) → Text → Work Unit
  | 0, _, _, _ => pure ()
  | fuel + 1, headed, first, path => do
    let names ← namesInDirectory plan path
    if headed then Work.out ((if first then [] else ['\n']) ++ path ++ ":\n".toList)
    Work.out (plan.lines (names.map fun (n, e) => plan.shown n e))
    if plan.recursive then
      for (n, e) in names do
        if e.isDirectory && n != ['.'] && n != ['.', '.'] then
          listDirectory plan fuel true false (Path.join path n)

/-- The words that an option may have, one group of words with one meaning on each line. -/
def refuseWord {α : Type} (name : String) (given : Text) (groups : List (List String)) : Work α := do
  Work.complain ("invalid argument ".toList ++ quotedName given ++ " for ".toList ++ quotedName name.toList)
  Work.errors "Valid arguments are:\n".toList
  for group in groups do
    Work.errors ("  - ".toList ++ Text.join ", ".toList (group.map fun w => quotedName w.toList) ++ ['\n'])
  hint
  throw (.exited 1)

/-- The word that a beginning stands for among groups of words. -/
def wordOf? (given : Text) (groups : List (List String)) : Option String :=
  let found := groups.filterMap fun group => if group.any (given.isPrefixOf ·.toList) then group.head? else none
  match groups.find? fun group => group.any (·.toList == given), found with
  | some group, _ => group.head?
  | none, [one] => some one
  | none, _ => none

/-- The order and the form that options ask for, the last one of each. -/
def listingManner (a : Arguments) : Work (ListingOrder × ListingForm) := do
  let orders := [["none"], ["time"], ["size"], ["extension"], ["version"], ["width"]]
  let forms := [["verbose", "long"], ["commas"], ["horizontal", "across"], ["vertical"], ["single-column"]]
  let mut order := ListingOrder.name
  let mut form := ListingForm.lines
  for o in a.options do
    match String.ofList o.key with
    | "S" => order := .size
    | "X" => order := .extension
    | "v" => order := .version
    | "t" => order := .name
    | "U" | "f" => order := .none
    | "sort" =>
      match wordOf? (o.value.getD []) orders with
      | some "none" => order := .none
      | some "size" => order := .size
      | some "extension" => order := .extension
      | some "version" => order := .version
      | some "width" => order := .width
      | some _ => order := .name
      | none => refuseWord "--sort" (o.value.getD []) orders
    | "1" | "zero" => form := .lines
    | "m" => form := .commas
    | "x" => form := .across
    | "C" => form := .down
    | "format" =>
      match wordOf? (o.value.getD []) forms with
      | some "commas" => form := .commas
      | some "horizontal" => form := .across
      | some "vertical" => form := .down
      | some _ => form := .lines
      | none => refuseWord "--format" (o.value.getD []) forms
    | _ => pure ()
  return (order, form)

/-- `ls`: lists files and directories. -/
def ls (args : List Text) : Work Nat := do
  let a ← arguments ("1 a:all A:almost-all b:escape B:ignore-backups c C d:directory f F:classify? g"
    ++ " G:no-group h:human-readable i:inode I:ignore= k:kibibytes l L:dereference m n:numeric-uid-gid"
    ++ " N:literal o p q:hide-control-chars Q:quote-name r:reverse R:recursive s:size S t T:tabsize= u U"
    ++ " v w:width= x X Z:context -:color? -:group-directories-first -:hide= -:hyperlink? -:sort= -:time="
    ++ " -:indicator-style= -:file-type -:format= -:full-time -:zero") args 2 false
  let number (key what : String) (usual : Nat) : Work Nat := do
    match a.value? key with
    | none => return usual
    | some s =>
      if s ≠ [] ∧ s.all Char.isDigit then return ofDigits 10 s
      else Work.fail 2 (("invalid " ++ what ++ ": ").toList ++ quotedWord s)
  let columns := (← Work.binding? "COLUMNS".toList).filter fun s => s.all Char.isDigit && ofDigits 10 s != 0
  let width ← number "w" "line width" ((columns.map (ofDigits 10)).getD 80)
  let tabs ← number "T" "tab size" 8
  let (order, form) ← listingManner a
  let style := (a.value? "indicator-style").getD []
  let plan : ListingPlan :=
    { hidden := a.has "A", dots := a.has "a" || a.has "f", directories := a.has "d",
      markDirectories := a.has "p" || a.has "file-type" || style == "slash".toList,
      classify := a.has "F" || style == "classify".toList,
      reverse := a.has "r", recursive := a.has "R" && !a.has "d", order, form
      width := if width = 0 then none else some width, tabs
      mark := if a.has "zero" then '\x00' else '\n'
      directoriesFirst := a.has "group-directories-first",
      quoted := a.has "Q",
      ignored := a.values "I" ++ a.values "hide" ++ (if a.has "B" then ["*~".toList] else []) }
  let paths := if a.operands.isEmpty then [['.']] else a.operands
  let mut single : List (Text × Entry) := []
  let mut dirs : List (Text × Entry) := []
  let mut worst := 0
  for path in paths do
    match ← Work.stat path with
    | .error fault =>
      Work.complain ("cannot access ".toList ++ quotedName path ++ ": ".toList ++ fault.wording)
      worst := 2
    | .ok e =>
      if e.isDirectory && !plan.directories then dirs := dirs ++ [(path, e)]
      else single := single ++ [(path, e)]
  let inOrder (xs : List (Text × Entry)) : List (Text × Entry) :=
    plan.ordered (xs.mergeSort fun x y => !(Text.before y.1 x.1))
  let files := inOrder single
  let folders := inOrder dirs
  Work.out (plan.lines (files.map fun (n, e) => plan.shown n e))
  let headed := 1 < paths.length || plan.recursive
  let mut first := files.isEmpty
  for (path, _) in folders do
    listDirectory plan 200 headed first path
    first := false
  return worst

/-- `dir`: lists in columns. -/
def dir (args : List Text) : Work Nat := ls ("-C".toList :: args)

end Manpage.Utility
