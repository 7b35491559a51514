/-
# Counting lines, words and bytes

The counts of files and their totals, in columns as wide as the sizes of the files need.
-/
import Manpage.Utility.Input

namespace Manpage.Utility

/-- The counts of a text. -/
structure Counts where
  lines : Nat
  words : Nat
  bytes : Nat
  /-- The length of the longest line. -/
  longest : Nat
deriving DecidableEq, Repr

namespace Counts

/-- Counts of nothing. -/
def zero : Counts := ⟨0, 0, 0, 0⟩

/-- The counts of two texts together. -/
def add (a b : Counts) : Counts :=
  ⟨a.lines + b.lines, a.words + b.words, a.bytes + b.bytes, max a.longest b.longest⟩

/-- White space between words. -/
def isSpace (c : Char) : Bool := c == ' ' || ('\t' ≤ c && c ≤ '\r')

/-- The width of a line, in which a tab goes to the next multiple of eight. -/
def lineWidth (line : Text) : Nat :=
  line.foldl (fun n c =>
    if c = '\t' then (n / 8 + 1) * 8
    else if 0x20 ≤ c.toNat ∧ c.toNat < 0x7F then n + 1 else n) 0

/-- The number of words of a text: the stretches without white space that hold a character that
prints. -/
def wordCount (s : Text) : Nat :=
  ((Text.cutAt isSpace s).filter fun w => w.any fun c => 0x20 < c.toNat && c.toNat < 0x7F).length

/-- The counts of a text. -/
def ofText (s : Text) : Counts :=
  let pieces := Text.cutAt (fun c => c == '\n') s
  ⟨pieces.length - 1, wordCount s, s.length, (pieces.map lineWidth).foldl max 0⟩

/-- The counts that are asked for, by the letters of their options. -/
def chosen (c : Counts) (letters : List Char) : List Nat :=
  [('l', c.lines), ('w', c.words), ('m', c.bytes), ('c', c.bytes), ('L', c.longest)].filterMap
    fun (letter, n) => if letters.contains letter then some n else none

end Counts

/-- A row of counts. -/
def countRow (width : Nat) (counts : List Nat) (name : Option Text) : Text :=
  Text.join [' '] (counts.map fun n => alignRight width (Text.ofNat n))
    ++ (match name with
      | some name => ' ' :: name
      | none => []) ++ ['\n']

/-- The size of what a path leads to, if it is a file; a hyphen and no path at all are the input. -/
def sizeOf? (path : Option Text) : Work (Option (Option Nat)) := do
  let sys ← getThe System
  let ofFile (l : Location) : Option Nat := match sys.files.get? l with
    | some (.file _ content) => some content.length
    | _ => none
  match path with
  | none | some ['-'] =>
    match ← Work.channelOf? 0 with
    | none => return none
    | some c =>
      match sys.channel c with
      | .file l _ _ => return some (ofFile l)
      | _ => return some none
  | some path =>
    match ← Work.stat path with
    | .error _ => return none
    | .ok (.file _ content) => return some (some content.length)
    | .ok .directory => return some none

/-- The width of the columns: enough for the sizes of all files together, and more if something is
no file. -/
def columnWidth (paths : List (Option Text)) (columns : Nat) : Work Nat := do
  if paths.length = 1 ∧ columns = 1 then return 1
  let sizes ← paths.mapM sizeOf?
  let total := (sizes.filterMap fun s => s.bind id).foldl (· + ·) 0
  let least := if sizes.any (· == some none) then 7 else 1
  return max least (Text.ofNat total).length

/-- `wc`: counts. -/
def wc (args : List Text) : Work Nat := do
  let a ← arguments "c:bytes m:chars l:lines w:words L:max-line-length -:total= -:files0-from=" args 1
    false
  let given := (a.options.map (·.key)).filterMap fun k => if k.length = 1 then k.head? else none
  let letters := if given.isEmpty then ['l', 'w', 'c'] else given
  let paths : List (Option Text) := if a.operands.isEmpty then [none] else a.operands.map some
  let columns := (Counts.zero.chosen letters).length
  let width ← columnWidth paths columns
  let totalWhen := a.value? "total"
  let only := totalWhen == some "only".toList
  let width := if only then 1 else width
  let mut total := Counts.zero
  let mut fine := true
  for path in paths do
    match ← Work.readFile (path.getD ['-']) with
    | .ok s =>
      let counts := Counts.ofText s
      total := total.add counts
      if !only then Work.out (countRow width (counts.chosen letters) (path.map shownName))
    | .error fault =>
      Work.complain (faultText (path.getD ['-']) fault)
      fine := false
      if fault = .isDirectory ∧ only = false then
        Work.out (countRow width (Counts.zero.chosen letters) (path.map shownName))
  let wantsTotal := match totalWhen with
    | some w => w == "always".toList || w == "only".toList
    | none => 1 < paths.length
  if totalWhen == some "never".toList then return statusOf fine
  if wantsTotal || (totalWhen == some "auto".toList && 1 < paths.length) then
    Work.out (countRow width (total.chosen letters) (if only then none else some "total".toList))
  return statusOf fine

end Manpage.Utility
