/-
# The line editor

`sed` goes through its files line by line.  Each line is put into a space where the commands of a script
change it, and is written when they are through; a second space holds what is put aside.
-/
import Manpage.Utility.EditScript
import Manpage.Utility.Names

namespace Manpage.Utility

namespace Edit

/-! ## 1. Replacing -/

/-- A letter in a case. -/
def LetterCase.of (c : LetterCase) (letter : Char) : Char :=
  match c with
  | .upper => letter.toUpper
  | .lower => letter.toLower

/-- What is put in the place of a match: `mode` is the case that letters are written in, and `next` the
one of the next letter. -/
def expand (s : Regex.Subject) (m : Regex.Match) :
    (mode next : Option LetterCase) → List Part → Text
  | _, _, [] => []
  | _, _, .turn c :: rest => expand s m c none rest
  | mode, _, .once c :: rest => expand s m mode (some c) rest
  | mode, next, .text written :: rest => piece mode next written rest
  | mode, next, .group n :: rest => piece mode next (m.group s n) rest
where
  /-- A piece of text, and what follows. -/
  piece (mode next : Option LetterCase) (written : Text) (rest : List Part) : Text :=
    let inMode (c : Char) : Char := match mode with
      | some k => k.of c
      | none => c
    match written with
    | [] => expand s m mode next rest
    | c :: more =>
      let first := match next with
        | some k => k.of c
        | none => inMode c
      first :: more.map inMode ++ expand s m mode none rest

/-- The texts of a subject between two places. -/
def between (s : Regex.Subject) (first last : Nat) : Text := (s.chars.extract first last).toList

/-- Replaces matches from a place on: `count` is how many there were, and `past` where the last one
ended.  A match without a character does not count right behind another.  It gives the text from the
place on, if anything is replaced. -/
def replaceFrom (r : Regex) (s : Regex.Subject) (sub : Substitution) :
    (fuel : Nat) → (start count : Nat) → (past : Option Nat) → Option Text
  | 0, _, _, _ => none
  | fuel + 1, start, count, past =>
    match r.find s start with
    | none => none
    | some m =>
      let stepped := if m.first = m.last then between s m.last (m.last + 1) else []
      let next := if m.first = m.last then m.last + 1 else m.last
      let rest (count : Nat) : Option Text :=
        if next ≤ s.chars.size then replaceFrom r s sub fuel next count (some m.last) else none
      let before := between s start m.first
      let unchanged : Text := between s m.first m.last ++ stepped
      if m.first = m.last ∧ past = some m.first then
        (rest count).map fun tail => before ++ unchanged ++ tail
      else if count + 1 < sub.number then
        (rest (count + 1)).map fun tail => before ++ unchanged ++ tail
      else
        let replaced := before ++ expand s m none none sub.parts
        if sub.everywhere then
          match rest (count + 1) with
          | some tail => some (replaced ++ stepped ++ tail)
          | none => some (replaced ++ stepped ++ between s next s.chars.size)
        else some (replaced ++ between s m.last s.chars.size)

/-- Replaces matches in a text, if there are any to be replaced. -/
def replace (r : Regex) (manner : Regex.Manner) (sub : Substitution) (line : Text) : Option Text :=
  replaceFrom r ⟨line.toArray, manner, true⟩ sub (line.length + 2) 0 0 none

/-! ## 2. Showing a line -/

/-- A character as `l` shows it. -/
def shownChar (c : Char) : Text :=
  match c with
  | '\\' => "\\\\".toList
  | c => if prints c then [c] else escapedOctet c

/-- Breaks what is shown into lines that are shorter than a width; a width of zero is none. -/
def wrapped (width : Nat) : (used : Nat) → List Text → Text
  | _, [] => ['$']
  | used, piece :: rest =>
    if width ≠ 0 ∧ width - 1 < used + piece.length then
      "\\\n".toList ++ piece ++ wrapped width piece.length rest
    else piece ++ wrapped width (used + piece.length) rest

/-! ## 3. The state of the editor -/

/-- How the editor works. -/
structure Settings where
  script : Array Step
  labels : List (Text × Nat)
  silent : Bool
  separate : Bool
  /-- Whether files are changed, and what the name of a copy of the old one ends with. -/
  inPlace : Option Text
  mark : Char
  width : Nat

/-- Whether a command is at work over several lines, and up to where. -/
inductive Reach
  | idle
  | upTo (line : Nat)
  | untilBound
deriving DecidableEq, Repr

/-- How far commands are at work before the first line: those that begin before it are. -/
def startReach (script : Array Step) : Array Reach :=
  script.map fun step => if step.selection.first = some (.line 0) then .untilBound else .idle

/-- What is written behind a line. -/
inductive Later
  | text (s : Text)
  | file (path : Text)

/-- A file that is being read. -/
structure Opened where
  path : Text
  source : Source
  left : Text

/-- The state of the editor. -/
structure Editor where
  space : Text
  held : Text
  /-- Whether what is in the space is written with an end: a last line may be without one. -/
  ended : Bool
  /-- Whether what is put aside is. -/
  heldEnded : Bool
  line : Nat
  replaced : Bool
  latest : Option (Regex × Regex.Manner)
  reach : Array Reach
  later : List Later
  /-- The files whose last line has no end yet; the output has no name. -/
  owing : List (Option Text)
  current : Option Opened
  /-- The file that the line comes from. -/
  path : Text
  paths : List Text
  /-- What the file that is changed is to hold, the last piece first. -/
  edited : List Text
  /-- What is left of the files that are read by line. -/
  lineFiles : List (Text × Text)
  status : Nat

/-- Editing changes the state of the editor, and does what commands do. -/
abbrev Editing := StateT Editor Work

/-! ## 4. Writing -/

/-- Writes to the output or to a file, as it is. -/
def putRaw (s : Settings) (path : Option Text) (text : Text) : Editing Unit := do
  match path with
  | none =>
    if s.inPlace.isSome then modify fun e => { e with edited := text :: e.edited }
    else Work.out text
  | some path => discard (Work.writeFile path text true)

/-- Writes to the output or to a file, behind the end that its last line has not got yet. -/
def put (s : Settings) (path : Option Text) (text : Text) : Editing Unit := do
  if (← get).owing.contains path then
    modify fun e => { e with owing := e.owing.filter (· != path) }
    putRaw s path [s.mark]
  putRaw s path text

/-- Writes the text of a command. -/
def putText (s : Settings) (text : Text) : Editing Unit := do
  if text ≠ [] then put s none (text.dropLast ++ [s.mark])

/-- Writes a line, with an end if it is to have one. -/
def putLine (s : Settings) (path : Option Text) (text : Text) : Editing Unit := do
  if (← get).ended then put s path (text ++ [s.mark])
  else
    put s path text
    modify fun e => { e with owing := path :: e.owing }

/-- What is in a file; nothing if it cannot be read. -/
def contents (path : Text) : Editing Text := do
  match ← Work.openFile path with
  | .error _ => return []
  | .ok c =>
    match ← Work.readChannel c with
    | .ok text => return text
    | .error _ => return []

/-- Writes what is to be written behind a line. -/
def putLater (s : Settings) : Editing Unit := do
  let later := (← get).later
  if !later.isEmpty then
    modify fun e => { e with later := [] }
    for piece in later.reverse do
      match piece with
      | .text text => put s none text
      | .file path => put s none (← contents path)

/-! ## 5. Reading -/

/-- Puts a changed file in the place of the old one. -/
def storeEdited (s : Settings) (path : Text) : Editing Unit := do
  match s.inPlace with
  | none => pure ()
  | some ending =>
    let text := (← get).edited.reverse.flatten
    modify fun e => { e with edited := [], owing := [] }
    if ending ≠ [] then
      match ← Work.readFile path with
      | .ok old =>
        let name := baseName path
        let copy := if ending.contains '*' then
            ending.flatMap fun c => if c = '*' then name else [c]
          else name ++ ending
        let target := if copy.contains '/' then copy
          else if path.contains '/' then dirName path ++ '/' :: copy
          else copy
        discard (Work.writeFile target old false)
      | .error _ => pure ()
    discard (Work.writeFile path text false)

/-- Ends the reading of a file. -/
def closeFile (s : Settings) (o : Opened) (wholly : Bool) : Editing Unit := do
  if wholly then o.source.finish
  else o.source.take (o.source.text.length - o.left.length)
  modify fun e => { e with current := none }
  storeEdited s o.path

/-- Opens the next file that can be read. -/
def openNext (s : Settings) : (fuel : Nat) → Editing Bool
  | 0 => return false
  | fuel + 1 => do
    match (← get).paths with
    | [] => return false
    | path :: paths =>
      modify fun e => { e with paths }
      let isDirectory ← Work.isDirectory path
      if s.inPlace.isSome ∧ isDirectory = true then
        Work.fail 4 ("couldn't edit ".toList ++ path ++ ": not a regular file".toList)
      match ← Source.openPath path with
      | .error fault =>
        Work.complain ("can't read ".toList ++ path ++ ": ".toList ++ fault.wording)
        modify fun e => { e with status := 2 }
        openNext s fuel
      | .ok c =>
        match ← Source.ofChannel c with
        | .error fault =>
          Work.flush
          Work.fail 4 ("read error on ".toList ++ path ++ ": ".toList ++ fault.wording)
        | .ok source =>
          modify fun e => { e with current := some ⟨path, source, source.text⟩ }
          if s.separate then
            modify fun e => { e with line := 0, held := [], reach := startReach s.script, lineFiles := [] }
          return true

/-- Makes a file current that has something left to read, if there is one. -/
def findInput (s : Settings) : (fuel : Nat) → Editing Bool
  | 0 => return false
  | fuel + 1 => do
    match (← get).current with
    | some o =>
      if o.left ≠ [] then return true
      else
        closeFile s o true
        findInput s fuel
    | none =>
      if ← openNext s ((← get).paths.length + 1) then findInput s fuel else return false

/-- How many files there may still be to look at. -/
def filesLeft : Editing Nat := do return 2 * (← get).paths.length + 3

/-- Whether the line that was read last is the last one. -/
def isLast (s : Settings) : Editing Bool := do
  match (← get).current with
  | some o =>
    if o.left ≠ [] then return false
    else if s.separate then
      if o.source.cut then o.source.finish
      return true
    else return !(← findInput s (← filesLeft))
  | none => return !(← findInput s (← filesLeft))

/-- Reads the next line; `adds` puts it behind what is in the space. -/
def readLine (s : Settings) (adds : Bool) : Editing Bool := do
  putLater s
  if ← findInput s (← filesLeft) then
    match (← get).current with
    | none => return false
    | some o =>
      let line := o.left.takeWhile (· != s.mark)
      let left := o.left.drop line.length
      if left.isEmpty ∧ o.source.cut = true then o.source.finish
      modify fun e => { e with
        current := some { o with left := left.drop 1 }
        path := o.path
        ended := !left.isEmpty
        line := e.line + 1
        replaced := false
        space := if adds then e.space ++ s.mark :: line else line }
      return true
  else return false

/-- The next line of a file that is read by line, with its end. -/
def lineOfFile (s : Settings) (path : Text) : Editing Text := do
  let left ← match (← get).lineFiles.lookup path with
    | some left => pure left
    | none => contents path
  let line := left.takeWhile (· != s.mark)
  let size := line.length + 1
  modify fun e => { e with
    lineFiles := (path, left.drop size) :: e.lineFiles.filter (·.1 != path) }
  return left.take size

/-! ## 6. Which lines a command is at work on -/

/-- The expression that a target means, which is then the one that was used last. -/
def expression (t : Target) : Editing (Regex × Regex.Manner) := do
  match t.regex with
  | some r =>
    modify fun e => { e with latest := some (r, t.manner) }
    return (r, t.manner)
  | none =>
    match (← get).latest with
    | some used => return used
    | none => Work.fail 1 "-e expression #1, char 0: no previous regular expression".toList

/-- Whether a target is in the space. -/
def occursIn (t : Target) : Editing Bool := do
  let (r, manner) ← expression t
  return r.occurs ⟨(← get).space.toArray, manner, true⟩

/-- Whether a command begins to be at work here. -/
def begins (s : Settings) (p : Place) : Editing Bool := do
  let line := (← get).line
  match p with
  | .line n => return line == n
  | .every first step =>
    return if step = 0 then line == first else first ≤ line && (line - first) % step == 0
  | .last => isLast s
  | .fits t => occursIn t

/-- How far a command that begins at a line is at work. -/
def reachOf (line : Nat) (b : Bound) : Reach :=
  let upTo (n : Nat) : Reach := if n ≤ line then .idle else .upTo n
  match b with
  | .line n => upTo n
  | .after n => upTo (line + n)
  | .multiple n => if n = 0 then .idle else .untilBound
  | .last | .fits _ => .untilBound

/-- Whether a command is at work on the line; `i` is its number. -/
def isSelected (s : Settings) (i : Nat) (sel : Selection) : Editing Bool := do
  let line := (← get).line
  let setReach (r : Reach) : Editing Unit :=
    modify fun e => { e with reach := e.reach.setIfInBounds i r }
  let found ← match sel.first, sel.last with
    | none, _ => pure true
    | some p, none => begins s p
    | some p, some b =>
      match ((← get).reach[i]?).getD .idle with
      | .idle =>
        if ← begins s p then
          setReach (reachOf line b)
          pure true
        else pure false
      | .upTo n =>
        if n ≤ line then setReach .idle
        pure (decide (line ≤ n))
      | .untilBound =>
        let ends ← match b with
          | .fits t => occursIn t
          | .multiple n => pure (line % n == 0)
          | _ => isLast s
        if ends then setReach .idle
        pure true
  return found != sel.turned

/-! ## 7. Doing what commands say -/

/-- How things go on after a command: with the next one, with another, with the next line, with the
space as it is, or not at all. -/
inductive Outcome
  | on
  | goTo (i : Nat)
  | away (prints : Bool)
  | again
  | quit (status : Nat) (prints : Bool)

/-- Does what a command says; `i` is its number. -/
def perform (s : Settings) (i : Nat) (step : Step) : Editing Outcome := do
  let e ← get
  let untilMark : Text := e.space.takeWhile (· != s.mark)
  let hasMark : Bool := e.space.contains s.mark
  match step.action with
  | .block _ | .label => return .on
  | .jump kind label =>
    let taken := match kind with
      | .always => true
      | .replaced => e.replaced
      | .untouched => !e.replaced
    if kind ≠ .always then set { e with replaced := false }
    if taken then
      match s.labels.lookup label with
      | some place => return .goTo place
      | none => return .away true
    else return .on
  | .append [] => return .on
  | .append text =>
    set { e with later := .text text :: e.later }
    return .on
  | .insert text =>
    putText s text
    return .on
  | .change text =>
    if (e.reach[i]?).getD .idle = .idle || step.selection.turned then putText s text
    return .away false
  | .delete => return .away false
  | .deleteLine =>
    if hasMark then
      set { e with space := e.space.drop (untilMark.length + 1) }
      return .again
    else return .away false
  | .empty =>
    set { e with space := [] }
    return .on
  | .number =>
    put s none (Text.ofNat e.line ++ [s.mark])
    return .on
  | .fileName =>
    put s none (e.path ++ [s.mark])
    return .on
  | .getHeld adds =>
    set { e with
      space := if adds then e.space ++ s.mark :: e.held else e.held
      ended := e.heldEnded }
    return .on
  | .hold adds =>
    set { e with
      held := if adds then e.held ++ s.mark :: e.space else e.space
      heldEnded := e.ended }
    return .on
  | .swap =>
    set { e with space := e.held, ended := e.heldEnded, held := e.space, heldEnded := e.ended }
    return .on
  | .list width =>
    put s none (wrapped (width.getD s.width) 0 (e.space.map shownChar) ++ [s.mark])
    return .on
  | .next adds =>
    if ← isLast s then return .away true
    else
      if !adds ∧ !s.silent then putLine s none e.space
      discard (readLine s adds)
      return .on
  | .print =>
    putLine s none e.space
    return .on
  | .printLine =>
    if hasMark then put s none (untilMark ++ [s.mark]) else putLine s none e.space
    return .on
  | .quit status prints => return .quit status prints
  | .readFile path =>
    set { e with later := .file path :: e.later }
    return .on
  | .readLine path =>
    let line ← lineOfFile s path
    if line ≠ [] then modify fun e => { e with later := .text line :: e.later }
    return .on
  | .writeFile path =>
    putLine s (some path) e.space
    return .on
  | .writeLine path =>
    if hasMark then put s (some path) (untilMark ++ [s.mark]) else putLine s (some path) e.space
    return .on
  | .substitute sub =>
    let (r, manner) ← expression sub.target
    match replace r manner sub e.space with
    | none => return .on
    | some space =>
      modify fun e => { e with space, replaced := true }
      if sub.shows then putLine s none space
      match sub.file with
      | some path => putLine s (some path) space
      | none => pure ()
      return .on
  | .exchange pairs =>
    set { e with space := e.space.map fun c => (pairs.lookup c).getD c }
    return .on

/-- Does what the commands say from one on. -/
def performFrom (s : Settings) : (fuel : Nat) → (i : Nat) → Editing Outcome
  | 0, _ => return .quit 0 false
  | fuel + 1, i => do
    match s.script[i]? with
    | none => return .away true
    | some step =>
      if ← isSelected s i step.selection then
        match ← perform s i step with
        | .on => performFrom s fuel (i + 1)
        | .goTo place => performFrom s fuel place
        | outcome => return outcome
      else
        match step.action with
        | .block past => performFrom s fuel past
        | _ => performFrom s fuel (i + 1)

/-- The greatest number of commands that are done for a line. -/
def stepLimit : Nat := 1000000

/-- Goes through the lines; `fresh` says that the next one has to be read first.  It gives the status. -/
def goThrough (s : Settings) : (fuel : Nat) → (fresh : Bool) → Editing Nat
  | 0, _ => return (← get).status
  | fuel + 1, fresh => do
    let there ← if fresh then readLine s false else pure true
    if !there then return (← get).status
    let outcome ← performFrom s stepLimit 0
    let printSpace : Editing Unit := do
      if !s.silent then putLine s none (← get).space
    match outcome with
    | .again =>
      putLater s
      goThrough s fuel false
    | .quit status prints =>
      if prints then
        printSpace
        putLater s
      match (← get).current with
      | some o => closeFile s o false
      | none => pure ()
      return status
    | .away false =>
      putLater s
      goThrough s fuel true
    | _ =>
      printSpace
      putLater s
      goThrough s fuel true

/-- The greatest number of rounds. -/
def roundLimit : Nat := 10000000

end Edit

/-! ## 8. The command -/

/-- Ends `sed` because of its arguments. -/
def editMisuse {α : Type} (message : Option Text) : Work α := do
  match message with
  | some m => Work.complain m
  | none => pure ()
  Work.errors "Usage: sed [OPTION]... \x7bscript-only-if-no-other-script\x7d [input-file]...\n\n".toList
  throw (.exited 1)

/-- The options of `sed`. -/
def editOptions : String :=
  "n:quiet -:silent e:expression= f:file= E:regexp-extended r i:in-place? l:line-length= s:separate u:unbuffered z:null-data -:debug -:posix -:sandbox -:follow-symlinks -:help -:version"

/-- The pieces of the script that options give. -/
def scriptPieces : (count : Nat) → List GivenOption → Work (List Edit.Piece)
  | _, [] => return []
  | count, o :: rest => do
    if o.key = ['e'] then
      return ⟨.argument (count + 1), o.value.getD []⟩ :: (← scriptPieces (count + 1) rest)
    else if o.key = ['f'] then
      let path := o.value.getD []
      match ← Work.readFile path with
      | .ok s => return ⟨.file path, s⟩ :: (← scriptPieces count rest)
      | .error fault => Work.fail 4 ("couldn't open file ".toList ++ path ++ ": ".toList ++ fault.wording)
    else scriptPieces count rest

/-- The files that a script writes. -/
def writtenFiles (steps : Array Edit.Step) : List Text :=
  (steps.toList.filterMap fun step =>
    match step.action with
    | .writeFile path | .writeLine path => some path
    | .substitute sub => sub.file
    | _ => none).eraseDups

/-- `sed`: changes lines. -/
def sed (args : List Text) : Work Nat := do
  let a ← match Arguments.read (KnownOption.ofString editOptions) false args with
    | .ok a => pure a
    | .error message => editMisuse (some message)
  answerAbout a "[OPTION]... \x7bscript-only-if-no-other-script\x7d [input-file]..." "4.9"
  let given ← scriptPieces 0 a.options
  let (pieces, paths) ←
    if a.has "e" ∨ a.has "f" then pure (given, a.operands)
    else match a.operands with
      | [] => editMisuse none
      | script :: paths => pure ([⟨.argument 1, script⟩], paths)
  let width ← match a.value? "l" with
    | none => pure 70
    | some s =>
      if s ≠ [] ∧ s.all Char.isDigit then pure (ofDigits 10 s)
      else Work.fail 1 ("invalid line length: ".toList ++ s)
  match Edit.Script.read ⟨a.has "E" || a.has "r"⟩ pieces with
  | .error (message, status) => Work.fail status message
  | .ok script =>
    for path in writtenFiles script.steps do
      if !("/dev/std".toList.isPrefixOf path) then
        match ← Work.writeFile path [] false with
        | .ok () => pure ()
        | .error fault =>
          Work.fail 4 ("couldn't open file ".toList ++ path ++ ": ".toList ++ fault.wording)
    let inPlace := if a.has "i" then some ((a.value? "i").getD []) else none
    if inPlace.isSome ∧ paths.isEmpty then Work.fail 4 "no input files".toList
    let s : Edit.Settings :=
      { script := script.steps
        labels := script.labels
        silent := a.has "n" || a.has "silent" || script.silent
        separate := a.has "s" || inPlace.isSome
        inPlace
        mark := if a.has "z" then Char.ofNat 0 else '\n'
        width }
    let editor : Edit.Editor :=
      { space := [], held := [], ended := true, heldEnded := true, line := 0, replaced := false, latest := none, reach := Edit.startReach script.steps
        later := [], owing := [], current := none, path := ['-']
        paths := if paths.isEmpty then [['-']] else paths
        edited := [], lineFiles := [], status := 0 }
    let (status, _) ← StateT.run (Edit.goThrough s Edit.roundLimit true) editor
    return status

end Manpage.Utility
