/-
# Searching for lines

`grep` writes the lines of its files that match one of some patterns, or counts them, or tells in which
files there are any.
-/
import Manpage.Regex.Reader
import Manpage.Shell.Pattern
import Manpage.Utility.Names

namespace Manpage.Utility

namespace Search

/-! ## 1. Patterns -/

/-- How patterns are written. -/
inductive Writing
  | basic | extended | fixed
deriving DecidableEq, Repr

/-- What is searched for. -/
structure Wanted where
  patterns : List Regex
  ignoreCase : Bool
  wholeWords : Bool
  wholeLines : Bool
  turned : Bool

/-- What a warning calls the operator that a text begins with. -/
def operatorName? : Text → Option Text
  | c :: rest =>
    if c = '*' ∨ c = '+' ∨ c = '?' then some [c]
    else if c = '\x7b' then
      match Regex.interval ⟨true, true, false⟩ rest with
      | .ok _ => some "\x7b...\x7d".toList
      | .error _ => none
    else none
  | [] => none

/-- The operators at the beginnings of expressions, where they have nothing to work on. -/
def idleOperators : (fuel : Nat) → (begins : Bool) → Text → List Text
  | 0, _, _ => []
  | _ + 1, _, [] => []
  | fuel + 1, begins, c :: rest =>
    match begins, operatorName? (c :: rest) with
    | true, some name => name :: idleOperators fuel true rest
    | _, _ =>
      if c = '\\' then idleOperators fuel false (rest.drop 1)
      else if c = '[' then
        let inside := match rest with
          | '^' :: ']' :: more => more
          | '^' :: more => more
          | ']' :: more => more
          | more => more
        idleOperators fuel false ((inside.dropWhile (· != ']')).drop 1)
      else idleOperators fuel (c == '(' || c == '|' || (begins && c == '^')) rest

/-- Whether a pattern is a class of characters without the brackets around it. -/
def isBareClass (s : Text) : Bool :=
  match s with
  | '[' :: ':' :: rest =>
    match rest.reverse with
    | ']' :: ':' :: _ => true
    | _ => false
  | _ => false

/-- A pattern as an expression. -/
def expression? (writing : Writing) (s : Text) : Except Text Regex :=
  match writing with
  | .fixed => .ok (Regex.sequence (s.map Regex.char))
  | _ =>
    if isBareClass s then
      .error "character class syntax is [[:space:]], not [:space:]".toList
    else
      match Regex.read (if writing = .extended then ⟨true, true, false⟩ else .basic) s with
      | .ok r => .ok r
      | .error message => .error message

/-- The subject that a line is. -/
def subject (w : Wanted) (line : Text) : Regex.Subject := ⟨line.toArray, ⟨w.ignoreCase, false⟩, true⟩

/-- Whether a stretch of a line is one that is wanted. -/
def fits (w : Wanted) (s : Regex.Subject) (first last : Nat) : Bool :=
  let wordAt (p : Nat) : Bool := s.chars[p]?.any Regex.Subject.isWord
  if w.wholeLines then first == 0 && last == s.chars.size
  else if w.wholeWords then (first == 0 || !wordAt (first - 1)) && !wordAt last
  else true

/-- Where the matches of an expression that begin at a place can end. -/
def endsAt (r : Regex) (s : Regex.Subject) (p : Nat) : List Nat :=
  if r.looksBack then (Regex.ways s r p []).map Prod.fst else Regex.ends s [] r p

/-- The first of the longest stretches that are wanted, from a place on. -/
def findFrom (w : Wanted) (s : Regex.Subject) (start : Nat) : Option (Nat × Nat) :=
  let places := if w.wholeLines then [start] else List.range' start (s.chars.size + 1 - start)
  places.findSome? fun p =>
    let ends := w.patterns.flatMap fun r => (endsAt r s p).filter (fits w s p)
    (ends.foldl (fun best e => some (max e (best.getD 0))) none).map fun e => (p, e)

/-- Whether a line is wanted. -/
def selects (w : Wanted) (line : Text) : Bool := (findFrom w (subject w line) 0).isSome != w.turned

/-- The stretches of a line that match, with their places. -/
def stretches (w : Wanted) (line : Text) : List (Nat × Text) :=
  let s := subject w line
  let rec go : (fuel : Nat) → Nat → List (Nat × Text)
    | 0, _ => []
    | fuel + 1, p =>
      match findFrom w s p with
      | none => []
      | some (first, last) =>
        if first = last then
          if s.chars.size ≤ first then [] else go fuel (first + 1)
        else (first, (s.chars.extract first last).toList) :: go fuel last
  go (line.length + 1) 0

/-! ## 2. What is told -/

/-- How what is found is told. -/
structure Telling where
  counts : Bool
  /-- Whether only the names of files are told: those with matches, or those without. -/
  names : Option Bool
  onlyStretches : Bool
  quiet : Bool
  silent : Bool
  numbers : Bool
  offsets : Bool
  withName : Bool
  nullNames : Bool
  asText : Bool
  most : Option Nat
  before : Nat
  after : Nat
  /-- What stands between lines that do not follow one another. -/
  separator : Option Text
  mark : Char
  colored : Bool

/-- What stands before a line. -/
def front (t : Telling) (name : Text) (number offset : Nat) (sign : Char) : Text :=
  (if t.withName then name ++ [if t.nullNames then Char.ofNat 0 else sign] else [])
    ++ (if t.numbers then Text.ofNat number ++ [sign] else [])
    ++ (if t.offsets then Text.ofNat offset ++ [sign] else [])

/-- A line with its number and its place in the file. -/
structure Line where
  number : Nat
  offset : Nat
  text : Text

/-- The lines of a text. -/
def linesOf (mark : Char) (s : Text) : List Line :=
  let records := cutRecords mark s
  let rec go (number offset : Nat) : List Text → List Line
    | [] => []
    | r :: rest =>
      ⟨number, offset, if r.getLast? = some mark then r.dropLast else r⟩
        :: go (number + 1) (offset + r.length) rest
  go 1 0 records

/-- What is known while lines are told: the lines before that may still be told, how many after a match
are left to be told, the number of the last line that was told, and how many matches there were. -/
structure Progress where
  waiting : List Line
  left : Nat
  last : Option Nat
  found : Nat
  output : List Text

/-- A line that was found, with the stretches that match in color. -/
def colorLine (w : Wanted) (line : Text) : Text :=
  let rec go (p : Nat) : List (Nat × Text) → Text
    | [] => line.drop p
    | (first, s) :: rest =>
      (line.drop p).take (first - p) ++ "\x1b[01;31m\x1b[K".toList ++ s ++ "\x1b[m\x1b[K".toList
        ++ go (first + s.length) rest
  go 0 (if w.turned then [] else stretches w line)

/-- Goes through lines and tells those that are found; stops when there are enough. -/
def tellLines (w : Wanted) (t : Telling) (name : Text) : List Line → Progress → Progress
  | [], p => p
  | line :: rest, p =>
    let full : Bool := match t.most with
      | some n => decide (n ≤ p.found)
      | none => false
    if full ∧ p.left = 0 then p
    else if !full && selects w line.text then
      if t.onlyStretches then
        let pieces := if w.turned then [] else (stretches w line.text).map fun (place, s) =>
          front t name line.number (line.offset + place) ':' ++ s ++ [t.mark]
        tellLines w t name rest { p with found := p.found + 1, output := pieces.reverse ++ p.output }
      else
        let gap : Bool := match p.last, (p.waiting.getLast?.map (·.number)).getD line.number with
          | some n, first => decide (n + 1 < first)
          | none, _ => false
        let separator := match t.separator, gap with
          | some s, true => [s ++ ['\n']]
          | _, _ => []
        let earlier := p.waiting.map fun l => front t name l.number l.offset '-' ++ l.text ++ [t.mark]
        let shown := if t.colored then colorLine w line.text else line.text
        let here := front t name line.number line.offset ':' ++ shown ++ [t.mark]
        tellLines w t name rest
          { waiting := [], left := t.after, last := some line.number, found := p.found + 1
            output := here :: (earlier ++ separator ++ p.output) }
    else if p.left ≠ 0 then
      let here := front t name line.number line.offset '-' ++ line.text ++ [t.mark]
      tellLines w t name rest
        { p with left := p.left - 1, last := some line.number, output := here :: p.output }
    else
      tellLines w t name rest { p with waiting := (line :: p.waiting).take t.before }

/-- Searches a text, and tells what is found; gives whether anything is. -/
def searchText (w : Wanted) (t : Telling) (name : Text) (s : Text) (last : Option Nat) :
    Work (Bool × Option Nat) := do
  let lines := linesOf t.mark s
  let isBinary := !t.asText && t.mark == '\n' && s.contains (Char.ofNat 0)
  let most := t.most.getD lines.length
  if t.quiet ∨ t.names.isSome = true then
    let found := most != 0 && lines.any fun l => selects w l.text
    match t.names with
    | some wanted =>
      if !t.quiet ∧ found = wanted then
        Work.out (name ++ [if t.nullNames then Char.ofNat 0 else '\n'])
    | none => pure ()
    return (found, last)
  else if t.counts then
    let n := min most (lines.filter fun l => selects w l.text).length
    Work.out ((if t.withName then name ++ [if t.nullNames then Char.ofNat 0 else ':'] else [])
      ++ Text.ofNat n ++ ['\n'])
    return (n != 0, last)
  else if isBinary then
    let found := most != 0 && lines.any fun l => selects w l.text
    if found then
      Work.complain (name ++ ": binary file matches".toList)
    return (found, last)
  else
    -- a separator also stands between files
    let start : Progress := ⟨[], 0, last.map fun _ => 0, 0, []⟩
    let start := if last.isSome then { start with last := some 0 } else start
    let p := tellLines w t name lines start
    let output := p.output.reverse
    -- the first line of a file is always apart from another file
    let output := match last, t.separator, output with
      | some _, some sep, first :: _ =>
        if first != sep ++ ['\n'] then (sep ++ ['\n']) :: output
        else output
      | _, _, _ => output
    Work.out output.flatten
    return (p.found != 0, if p.found != 0 then some 0 else last)

end Search

/-! ## 3. Files -/

/-- The files at and below a directory that may be searched. -/
def filesBelow (wanted : Text → Bool) : (fuel : Nat) → Text → Work (List Text)
  | 0, _ => return []
  | fuel + 1, dir => do
    let p ← get
    let names := ((← Work.files).listing p.cwd (Text.ofOctets (if dir = [] then ['.'] else dir))).map
      Text.octets
    let mut found : List Text := []
    for name in names do
      let path := if dir = [] then name
        else if dir.getLast? = some '/' then dir ++ name else dir ++ '/' :: name
      if ← Work.isDirectory path then found := found ++ (← filesBelow wanted fuel path)
      else if wanted name then found := found ++ [path]
    return found

/-- A number of lines in an argument. -/
def contextLength (s : Text) : Work Nat := do
  if s ≠ [] ∧ s.all Char.isDigit then return ofDigitsOf s
  else Work.fail 2 (s ++ ": invalid context length argument".toList)
where
  /-- The value of digits. -/
  ofDigitsOf (s : Text) : Nat := s.foldl (fun n c => n * 10 + (c.toNat - 48)) 0

/-- Ends `grep` because of its arguments. -/
def searchMisuse {α : Type} (message : Option Text) : Work α := do
  match message with
  | some m => Work.complain m
  | none => pure ()
  let name := (← get).name
  Work.errors ("Usage: ".toList ++ name ++ " [OPTION]... PATTERNS [FILE]...\nTry '".toList ++ name
    ++ " --help' for more information.\n".toList)
  throw (.exited 2)

/-- The options of `grep`. -/
def searchOptions : String :=
  "E:extended-regexp F:fixed-strings -:fixed-regexp G:basic-regexp P:perl-regexp A:after-context= B:before-context= C:context= H:with-filename I L:files-without-match T:initial-tab U:binary -:unix-byte-offsets X= Z:null a:text b:byte-offset c:count D:devices= d:directories= e:regexp= f:file= h:no-filename i:ignore-case y -:no-ignore-case l:files-with-matches m:max-count= n:line-number o:only-matching q:quiet -:silent R:dereference-recursive r:recursive s:no-messages u v:invert-match w:word-regexp x:line-regexp z:null-data -:binary-files= -:color? -:colour? -:exclude= -:exclude-from= -:exclude-dir= -:include= -:label= -:line-buffered -:group-separator= -:no-group-separator -:help V:version"

/-- Options that are a number alone. -/
def withoutNumbers (args : List Text) : List Text :=
  args.map fun arg =>
    match arg with
    | '-' :: c :: rest => if c.isDigit ∧ rest.all Char.isDigit then "-C".toList ++ c :: rest else arg
    | _ => arg

/-- `grep`: searches files for lines. -/
def grepAs (writing : Search.Writing) (args : List Text) : Work Nat := do
  let a ← match Arguments.read (KnownOption.ofString searchOptions) false (withoutNumbers args) with
    | .ok a => pure a
    | .error message => searchMisuse (some message)
  answerAbout { a with options := a.options.map fun o => if o.key = ['V'] then { o with key := "version".toList } else o }
    "[OPTION]... PATTERNS [FILE]..." "3.11"
  let writing := match a.lastOf? ["E", "F", "G", "P", "fixed-regexp"] with
    | some ['E'] | some ['P'] => Search.Writing.extended
    | some ['G'] => .basic
    | some _ => .fixed
    | none => writing
  let silent := a.has "s"
  let texts : List Text := a.values "e"
  let mut fromFiles : List Text := []
  for path in a.values "f" do
    match ← Work.readFile path with
    | .ok s => fromFiles := fromFiles ++ bareLines s
    | .error fault => Work.fail 2 (path ++ ": ".toList ++ fault.wording)
  let (texts, paths) ←
    if a.has "e" ∨ a.has "f" then pure (texts, a.operands)
    else match a.operands with
      | [] => searchMisuse none
      | pattern :: paths => pure ([pattern], paths)
  let patterns := texts.flatMap (Text.cutAt (· == '\n')) ++ fromFiles
  let mut expressions : List Regex := []
  for s in patterns do
    if writing = .extended then
      for op in Search.idleOperators (s.length + 1) true s do
        Work.complain ("warning: ".toList ++ op ++ " at start of expression".toList)
    match Search.expression? writing s with
    | .ok r => expressions := expressions ++ [r]
    | .error message => Work.fail 2 message
  let recursive := a.has "r" || a.has "R" || a.value? "d" == some "recurse".toList
  let context ← match a.value? "C" with
    | some s => contextLength s
    | none => pure 0
  let after ← match a.value? "A" with
    | some s => contextLength s
    | none => pure context
  let before ← match a.value? "B" with
    | some s => contextLength s
    | none => pure context
  let most ← match a.value? "m" with
    | none => pure none
    | some s =>
      if s ≠ [] ∧ s.all Char.isDigit then pure (some (contextLength.ofDigitsOf s))
      else Work.fail 2 "invalid max count".toList
  let wanted : Search.Wanted :=
    { patterns := expressions
      ignoreCase := (a.has "i" || a.has "y") && a.lastOf? ["i", "y", "no-ignore-case"] !=
        some "no-ignore-case".toList
      wholeWords := a.has "w"
      wholeLines := a.has "x"
      turned := a.has "v" }
  let paths := if paths.isEmpty then (if recursive then [[]] else [['-']]) else paths
  let many := paths.length > 1 || recursive
  let names := match a.lastOf? ["l", "L"] with
    | some ['l'] => some true
    | some _ => some false
    | none => none
  let color := (a.value? "color").orElse fun _ => a.value? "colour"
  let telling : Search.Telling :=
    { counts := a.has "c"
      names
      onlyStretches := a.has "o"
      quiet := a.has "q" || a.has "silent"
      silent
      numbers := a.has "n"
      offsets := a.has "b"
      withName := match a.lastOf? ["H", "h"] with
        | some ['H'] => true
        | some _ => false
        | none => many
      nullNames := a.has "Z"
      asText := a.has "a" || a.value? "binary-files" == some "text".toList
      most
      before
      after
      separator :=
        if a.has "no-group-separator" || !(a.has "A" || a.has "B" || a.has "C") then none
        else some ((a.value? "group-separator").getD "--".toList)
      mark := if a.has "z" then Char.ofNat 0 else '\n'
      colored := color == some "always".toList }
  let fitsName (globs : List Text) (name : Text) : Bool := globs.any fun glob =>
    Shell.Pattern.fits (Shell.Pattern.ofMarked ⟨true, false, false⟩ (glob.map fun c => (c, false))) name
  let includes := a.values "include"
  let excludes := a.values "exclude"
  let isWanted (name : Text) : Bool :=
    (includes.isEmpty || fitsName includes name) && !fitsName excludes name
  let mut all : List Text := []
  for path in paths do
    if recursive ∧ path ≠ ['-'] then
      let isDirectory ← if path.isEmpty then pure true else Work.isDirectory path
      if isDirectory then all := all ++ (← filesBelow isWanted 100 path)
      else all := all ++ [path]
    else if isWanted (baseName path) ∨ path = ['-'] then all := all ++ [path]
  let mut found := false
  let mut fine := true
  let mut last : Option Nat := none
  for path in all do
    if !(telling.quiet && found) then
      let label := (a.value? "label").getD "(standard input)".toList
      let name := if path = ['-'] then label else path
      match ← Work.readFile path with
      | .error fault =>
        let skips := fault = .isDirectory ∧ a.value? "d" = some "skip".toList
        if !skips then
          if !silent ∨ fault = .isDirectory then
            Work.complain (name ++ ": ".toList ++ fault.wording)
          fine := false
      | .ok s =>
        let (here, next) ← Search.searchText wanted telling name s last
        last := next
        found := found || here
  if telling.quiet && found then return 0
  else if !fine then return 2
  else return if found then 0 else 1

/-- `grep` with basic patterns. -/
def grep (args : List Text) : Work Nat := grepAs .basic args

/-- `grep` with extended patterns. -/
def egrep (args : List Text) : Work Nat := grepAs .extended args

/-- `grep` with fixed texts. -/
def fgrep (args : List Text) : Work Nat := grepAs .fixed args

end Manpage.Utility
