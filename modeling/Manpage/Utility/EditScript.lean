/-
# Scripts of the line editor

A script of `sed` is a list of commands.  A command may be held to some of the lines: by number, by
what is in them, or from one line to another.  Commands between braces are held to lines together, and
labels are places to go on from.

A script is read in pieces, one for each argument or file that holds a part of it.  A fault in a piece
is told with the piece and the place in it.
-/
import Manpage.Utility.Input
import Manpage.Utility.Decimal
import Manpage.Regex.Reader

namespace Manpage.Utility.Edit

/-! ## 1. Commands -/

/-- What is looked for in a line; without an expression the one that was used last is meant. -/
structure Target where
  regex : Option Regex
  manner : Regex.Manner
deriving DecidableEq, Repr

/-- Where a command begins to be at work. -/
inductive Place
  | line (n : Nat)
  /-- A line and every so-manieth after it. -/
  | every (first step : Nat)
  | last
  | fits (t : Target)
deriving DecidableEq, Repr

/-- Where a command that is at work over several lines stops. -/
inductive Bound
  | line (n : Nat)
  | last
  | fits (t : Target)
  /-- So many lines later. -/
  | after (n : Nat)
  /-- At the next line whose number is a multiple. -/
  | multiple (n : Nat)
deriving DecidableEq, Repr

/-- Which lines a command is at work on. -/
structure Selection where
  first : Option Place
  last : Option Bound
  turned : Bool
deriving DecidableEq, Repr

/-- Large and small letters. -/
inductive LetterCase
  | upper | lower
deriving DecidableEq, Repr

/-- A part of what is put in the place of a match. -/
inductive Part
  | text (s : Text)
  | group (n : Nat)
  /-- From here on letters are written in a case, or as they are. -/
  | turn (c : Option LetterCase)
  /-- The next letter is written in a case. -/
  | once (c : LetterCase)
deriving DecidableEq, Repr

/-- A replacement of matches. -/
structure Substitution where
  target : Target
  parts : List Part
  /-- The first match that is replaced. -/
  number : Nat
  everywhere : Bool
  shows : Bool
  file : Option Text
deriving DecidableEq, Repr

/-- Whether a jump depends on what has been replaced. -/
inductive Jump
  | always | replaced | untouched
deriving DecidableEq, Repr

/-- What a command does. -/
inductive Action
  /-- Begins a block, which ends behind a step. -/
  | block (past : Nat)
  | label
  | jump (kind : Jump) (label : Text)
  | append (s : Text)
  | insert (s : Text)
  | change (s : Text)
  | delete
  | deleteLine
  | empty
  | number
  | fileName
  | getHeld (adds : Bool)
  | hold (adds : Bool)
  | swap
  | list (width : Option Nat)
  | next (adds : Bool)
  | print
  | printLine
  | quit (status : Nat) (prints : Bool)
  | readFile (path : Text)
  | readLine (path : Text)
  | writeFile (path : Text)
  | writeLine (path : Text)
  | substitute (s : Substitution)
  | exchange (pairs : List (Char × Char))
deriving DecidableEq, Repr

/-- A command with the lines it is at work on. -/
structure Step where
  selection : Selection
  action : Action
deriving DecidableEq, Repr

/-! ## 2. Reading characters -/

/-- Where the reading of a piece is: what is left, how much has been taken, and the line. -/
structure Cursor where
  rest : Text
  taken : Nat
  line : Nat

/-- What is wrong with a script. -/
inductive Fault
  /-- At the place that has been reached. -/
  | here (message : Text)
  /-- A block that began at a place is not closed. -/
  | unclosed (piece line : Nat)
  | noLabel (label : Text)
deriving DecidableEq, Repr

/-- Reading goes through the characters of a piece and may be refused. -/
abbrev Reading := ExceptT Fault (StateM Cursor)

/-- Refuses a script. -/
def refuse {α : Type} (message : String) : Reading α := throw (.here message.toList)

/-- The next character, which stays. -/
def peek : Reading (Option Char) := do return (← get).rest.head?

/-- Takes the next character. -/
def next? : Reading (Option Char) := do
  let c ← get
  match c.rest with
  | [] => return none
  | x :: rest =>
    set (⟨rest, c.taken + 1, if x = '\n' then c.line + 1 else c.line⟩ : Cursor)
    return some x

/-- Takes characters as long as they are wanted. -/
def takeWhile (wanted : Char → Bool) : Reading Text := do
  let s := (← get).rest.takeWhile wanted
  for _ in s do discard next?
  return s

/-- Takes blanks, and then the next character. -/
def nextSolid? : Reading (Option Char) := do
  discard (takeWhile fun c => c == ' ' || c == '\t')
  next?

/-- Takes a number whose first digit has been taken. -/
def numberFrom (c : Char) : Reading Nat := do
  let more ← takeWhile Char.isDigit
  return ofDigits 10 (c :: more)

/-- Takes the end of a command. -/
def endCommand : Reading Unit := do
  discard (takeWhile fun c => c == ' ' || c == '\t')
  match ← peek with
  | some '\x7d' | some '#' | none => return
  | _ =>
    match ← next? with
    | some '\n' | some ';' => return
    | _ => refuse "extra characters after command"

/-- Takes a label. -/
def takeLabel : Reading Text := do
  discard (takeWhile fun c => c == ' ' || c == '\t')
  takeWhile fun c => !Text.isBlank c && c != ';' && c != '\x7d'

/-- Takes the name of a file, which goes to the end of the line. -/
def takePath : Reading Text := do
  discard (takeWhile fun c => c == ' ' || c == '\t')
  let path ← takeWhile (· != '\n')
  if path.isEmpty then refuse "missing filename in r/R/w/W commands"
  discard next?
  return path

/-! ## 3. Texts between delimiters -/

/-- Whether the reading of an expression is in a bracket: outside, after its opening, at its first
member, inside, in a named class that ends with a character, or before the end of such a class. -/
inductive Bracket
  | outside | opened | first | inside
  | named (mark : Char)
  | closing
deriving DecidableEq, Repr

namespace Bracket

/-- Where the reading is behind a character that is followed by another. -/
def after (state : Bracket) (c : Char) (following : Option Char) : Bracket :=
  match state with
  | .outside => if c = '[' then .opened else .outside
  | .named mark => if c = mark ∧ following = some ']' then .closing else .named mark
  | .closing => .inside
  | state =>
    if state = .inside ∧ c = ']' then .outside
    else if state = .opened ∧ c = '^' then .first
    else
      match c, following with
      | '[', some ':' => .named ':'
      | '[', some '.' => .named '.'
      | '[', some '=' => .named '='
      | _, _ => .inside

end Bracket

/-- What is kept of an escaped character. -/
def escaped (delimiter : Char) (isRegex : Bool) (c : Char) : Text :=
  if c = '\n' then ['\n']
  else if c = 'n' ∧ isRegex = true then ['\n']
  else if c = delimiter ∧ (isRegex = true ∨ c ≠ '&') then [c]
  else ['\\', c]

/-- Takes a text up to a delimiter: what is between, what is left, and whether there was one.  A
delimiter behind a backslash or in a bracket is a part of the text. -/
def delimited (delimiter : Char) (isRegex : Bool) : Bracket → Text → Text × Text × Bool
  | _, [] => ([], [], false)
  | .outside, '\\' :: c :: rest =>
    if delimiter = '\\' then ([], c :: rest, true)
    else
      let (s, left, closed) := delimited delimiter isRegex .outside rest
      (escaped delimiter isRegex c ++ s, left, closed)
  | state, c :: rest =>
    if state = .outside ∧ c = delimiter then ([], rest, true)
    else if c = '\n' then ([], c :: rest, false)
    else
      let state := if isRegex then state.after c rest.head? else state
      let (s, left, closed) := delimited delimiter isRegex state rest
      (c :: s, left, closed)

/-- Takes a text up to a delimiter, or refuses the script. -/
def takeDelimited (delimiter : Char) (isRegex : Bool) (refusal : String) : Reading Text := do
  let (s, rest, closed) := delimited delimiter isRegex .outside (← get).rest
  let size := (← get).rest.length - rest.length
  for _ in List.range size do discard next?
  if closed then return s else refuse refusal

/-- Takes up to so many digits of a base. -/
def takeDigits (base most : Nat) (s : Text) : Text :=
  (s.take most).takeWhile fun c => match hexValue? c with
    | some n => decide (n < base)
    | none => false

/-- Puts the characters that escapes stand for in their places; `special` are those that stay escaped
when they are written by number. -/
def unescape (special : List Char) : (fuel : Nat) → Text → Text
  | 0, s => s
  | _ + 1, [] => []
  | fuel + 1, '\\' :: c :: rest =>
    let byNumber (base most : Nat) : Text :=
      let digits := takeDigits base most rest
      if digits.isEmpty then '\\' :: c :: unescape special fuel rest
      else
        let d := Char.ofNat (ofDigits base digits % 256)
        (if special.contains d then ['\\', d] else [d]) ++ unescape special fuel (rest.drop digits.length)
    match c with
    | 'a' => '\x07' :: unescape special fuel rest
    | 'f' => '\x0c' :: unescape special fuel rest
    | 'n' => '\n' :: unescape special fuel rest
    | 'r' => '\r' :: unescape special fuel rest
    | 't' => '\t' :: unescape special fuel rest
    | 'v' => '\x0b' :: unescape special fuel rest
    | 'd' => byNumber 10 3
    | 'o' => byNumber 8 3
    | 'x' => byNumber 16 2
    | 'c' =>
      match rest with
      | d :: rest => Char.ofNat (d.toUpper.toNat ^^^ 64) :: unescape special fuel rest
      | [] => ['\\', c]
    | c => '\\' :: c :: unescape special fuel rest
  | fuel + 1, c :: rest => c :: unescape special fuel rest

/-- A text without the backslashes that escape characters. -/
def withoutBackslashes : Text → Text
  | '\\' :: c :: rest => c :: withoutBackslashes rest
  | ['\\'] => []
  | c :: rest => c :: withoutBackslashes rest
  | [] => []

/-- The text that a command writes, from how it is written. -/
def spokenText (s : Text) : Text := withoutBackslashes (unescape ['\\'] (s.length + 1) s)

/-- The parts of a replacement. -/
def parts : Text → List Part
  | [] => []
  | '\\' :: c :: rest =>
    let part : Part :=
      if c.isDigit then .group (c.toNat - 48)
      else if c = 'L' then .turn (some .lower)
      else if c = 'U' then .turn (some .upper)
      else if c = 'E' then .turn none
      else if c = 'l' then .once .lower
      else if c = 'u' then .once .upper
      else .text [c]
    part :: parts rest
  | '&' :: rest => .group 0 :: parts rest
  | c :: rest => .text [c] :: parts rest

/-- The greatest group that parts ask for. -/
def greatestGroup (ps : List Part) : Nat :=
  ps.foldl (fun n p => match p with | .group k => max n k | _ => n) 0

/-! ## 4. Expressions -/

/-- How a script is written. -/
structure Manner where
  extended : Bool
deriving DecidableEq, Repr

/-- An expression from how it is written. -/
def target (m : Manner) (written : Text) (ignoreCase manyLines : Bool) : Reading Target := do
  let manner : Regex.Manner := ⟨ignoreCase, manyLines⟩
  if written.isEmpty then
    if ignoreCase || manyLines then refuse "cannot specify modifiers on empty regexp"
    return ⟨none, manner⟩
  let s := unescape ['\\'] (written.length + 1) written
  match Regex.read ⟨m.extended, false, false⟩ s with
  | .ok r => return ⟨some r, manner⟩
  | .error message => throw (.here message)

/-- Takes what follows an address that is an expression. -/
def addressFlags : (fuel : Nat) → Bool × Bool → Reading (Bool × Bool)
  | 0, flags => return flags
  | fuel + 1, (ignoreCase, manyLines) => do
    match ← peek with
    | some 'I' =>
      discard next?
      addressFlags fuel (true, manyLines)
    | some 'M' =>
      discard next?
      addressFlags fuel (ignoreCase, true)
    | _ => return (ignoreCase, manyLines)

/-- Takes an expression between delimiters as an address. -/
def targetAddress (m : Manner) (delimiter : Option Char) : Reading Target := do
  let refusal := "unterminated address regex"
  match delimiter with
  | none => refuse refusal
  | some d =>
    let written ← takeDelimited d true refusal
    let (ignoreCase, manyLines) ← addressFlags (← get).rest.length (false, false)
    target m written ignoreCase manyLines

/-- Takes a number if there is one; without digits it is zero. -/
def numberOrZero : Reading Nat := do
  discard (takeWhile fun c => c == ' ' || c == '\t')
  return ofDigits 10 (← takeWhile Char.isDigit)

/-- Takes the address that begins with a character, if one does. -/
def place? (m : Manner) (c : Option Char) : Reading (Option Place) := do
  match c with
  | some '/' => return some (.fits (← targetAddress m c))
  | some '\\' => return some (.fits (← targetAddress m (← next?)))
  | some '$' => return some .last
  | some '+' | some '~' =>
    discard numberOrZero
    refuse "invalid usage of +N or ~N as first address"
  | some d =>
    if d.isDigit then
      let n ← numberFrom d
      let before ← get
      discard (takeWhile fun c => c == ' ' || c == '\t')
      if (← peek) = some '~' then
        discard next?
        return some (.every n (← numberOrZero))
      else
        set before
        return some (.line n)
    else return none
  | none => return none

/-- Takes the second address. -/
def bound (m : Manner) (c : Option Char) : Reading Bound := do
  match c with
  | some '+' => return .after (← numberOrZero)
  | some '~' => return .multiple (← numberOrZero)
  | _ =>
    match ← place? m c with
    | some (.line n) => return .line n
    | some (.every first _) => return .line first
    | some .last => return .last
    | some (.fits t) => return .fits t
    | none => refuse "unexpected \x60,'"

/-- Takes the addresses of a command and gives the character that follows them. -/
def selection (m : Manner) (c : Option Char) : Reading (Selection × Option Char) := do
  let (first, till, c) ← match ← place? m c with
    | none => pure (none, none, c)
    | some first =>
      let c ← nextSolid?
      let (till, c) ←
        if c = some ',' then
          let b ← bound m (← nextSolid?)
          pure (some b, ← nextSolid?)
        else pure (none, c)
      let endsByText : Bool := match till with
        | some (.fits _) => true
        | _ => false
      if first = .line 0 && !endsByText then refuse "invalid usage of line address 0"
      pure (some first, till, c)
  if c = some '!' then
    let c ← nextSolid?
    if c = some '!' then refuse "multiple \x60!'s"
    return (⟨first, till, true⟩, c)
  else return (⟨first, till, false⟩, c)

/-! ## 5. Reading commands -/

/-- What follows a replacement. -/
structure Flags where
  ignoreCase : Bool
  manyLines : Bool
  everywhere : Bool
  shows : Bool
  number : Option Nat
  file : Option Text

/-- Takes what follows a replacement. -/
def substitutionFlags : (fuel : Nat) → Flags → Reading Flags
  | 0, f => return f
  | fuel + 1, f => do
    match ← peek with
    | some '\x7d' | some '#' => return f
    | _ =>
      match ← next? with
      | none | some '\n' | some ';' => return f
      | some ' ' => substitutionFlags fuel f
      | some 'i' | some 'I' => substitutionFlags fuel { f with ignoreCase := true }
      | some 'm' | some 'M' => substitutionFlags fuel { f with manyLines := true }
      | some 'p' =>
        if f.shows then refuse "multiple \x60p' options to \x60s' command"
        substitutionFlags fuel { f with shows := true }
      | some 'g' =>
        if f.everywhere then refuse "multiple \x60g' options to \x60s' command"
        substitutionFlags fuel { f with everywhere := true }
      | some 'w' => return { f with file := some (← takePath) }
      | some c =>
        if c.isDigit then
          if f.number.isSome then refuse "multiple number options to \x60s' command"
          let n ← numberFrom c
          if n = 0 then refuse "number option to \x60s' command may not be zero"
          substitutionFlags fuel { f with number := some n }
        else refuse "unknown option to \x60s'"

/-- Takes a replacement of matches after its letter. -/
def substitution (m : Manner) : Reading Action := do
  let refusal := "unterminated \x60s' command"
  match ← next? with
  | none => refuse refusal
  | some d =>
    let written ← takeDelimited d true refusal
    let replacement ← takeDelimited d false refusal
    let ps := parts (unescape ['\\', '&'] (replacement.length + 1) replacement)
    let f ← substitutionFlags ((← get).rest.length + 1) ⟨false, false, false, false, none, none⟩
    let t ← target m written f.ignoreCase f.manyLines
    match t.regex with
    | some r =>
      if r.groupCount < greatestGroup ps then
        throw (.here ("invalid reference \\".toList ++ Text.ofNat (greatestGroup ps)
          ++ " on \x60s' command's RHS".toList))
    | none => pure ()
    return .substitute ⟨t, ps, f.number.getD 1, f.everywhere, f.shows, f.file⟩

/-- Takes an exchange of characters after its letter. -/
def exchange : Reading Action := do
  let refusal := "unterminated \x60y' command"
  match ← next? with
  | none => refuse refusal
  | some d =>
    let source := spokenText (← takeDelimited d false refusal)
    let image := spokenText (← takeDelimited d false refusal)
    if source.length ≠ image.length then
      refuse "strings for \x60y' command are different lengths"
    endCommand
    return .exchange (source.zip image)

/-- Takes the lines of a text: up to a line feed without a backslash before it.  It tells whether the
text may go on in the next piece. -/
def textLines : (fuel : Nat) → Reading Text
  | 0 => return []
  | fuel + 1 => do
    match ← next? with
    | none | some '\n' => return ['\n']
    | some '\\' =>
      match ← next? with
      | none => return ['\n']
      | some c => return '\\' :: c :: (← textLines fuel)
    | some c => return c :: (← textLines fuel)

/-- A text whose command ends with its piece: the text is in the next one. -/
def textLater : Text := []

/-- Takes the text of a command. -/
def commandText : Reading Text := do
  let refusal := "expected \\ after \x60a', \x60c' or \x60i'"
  discard (takeWhile fun c => c == ' ' || c == '\t')
  let size := (← get).rest.length + 1
  match ← peek with
  | none => refuse refusal
  | some '\\' =>
    discard next?
    match ← peek with
    | none => return textLater
    | some '\n' =>
      discard next?
      return spokenText (← textLines size)
    | _ => return spokenText (← textLines size)
  | some '\n' =>
    discard next?
    return textLater
  | some _ => return spokenText (← textLines size)

/-- Takes a number that may follow a letter, and the end of the command. -/
def optionalNumber : Reading (Option Nat) := do
  discard (takeWhile fun c => c == ' ' || c == '\t')
  let digits ← takeWhile Char.isDigit
  endCommand
  return if digits.isEmpty then none else some (ofDigits 10 digits)

/-- Takes a command whose letter has been taken. -/
def action (m : Manner) (c : Char) : Reading Action := do
  let plain (a : Action) : Reading Action := do
    endCommand
    return a
  match c with
  | 'a' => return .append (← commandText)
  | 'i' => return .insert (← commandText)
  | 'c' => return .change (← commandText)
  | 'b' => return .jump .always (← takeLabel)
  | 't' => return .jump .replaced (← takeLabel)
  | 'T' => return .jump .untouched (← takeLabel)
  | 'd' => plain .delete
  | 'D' => plain .deleteLine
  | 'z' => plain .empty
  | '=' => plain .number
  | 'F' => plain .fileName
  | 'g' => plain (.getHeld false)
  | 'G' => plain (.getHeld true)
  | 'h' => plain (.hold false)
  | 'H' => plain (.hold true)
  | 'x' => plain .swap
  | 'l' => return .list (← optionalNumber)
  | 'n' => plain (.next false)
  | 'N' => plain (.next true)
  | 'p' => plain .print
  | 'P' => plain .printLine
  | 'q' => return .quit ((← optionalNumber).getD 0) true
  | 'Q' => return .quit ((← optionalNumber).getD 0) false
  | 'r' => return .readFile (← takePath)
  | 'R' => return .readLine (← takePath)
  | 'w' => return .writeFile (← takePath)
  | 'W' => return .writeLine (← takePath)
  | 's' => substitution m
  | 'y' => exchange
  | c => throw (.here ("unknown command: \x60".toList ++ c :: ['\'']))

/-! ## 6. Scripts -/

/-- Where a piece of a script comes from. -/
inductive Origin
  | argument (n : Nat)
  | file (path : Text)
deriving DecidableEq, Repr

/-- A piece of a script. -/
structure Piece where
  origin : Origin
  text : Text

/-- What has been read of a script: the commands, the blocks that are open with the number of the piece
and the line where they began, the places of the labels, and whether the text of the last command is to
come in the next piece. -/
structure Script where
  steps : Array Step
  opened : List (Nat × Nat × Nat)
  labels : List (Text × Nat)
  unfinished : Bool
  /-- Whether lines are written only where a command says so. -/
  silent : Bool

namespace Script

/-- Nothing yet. -/
def start : Script := ⟨#[], [], [], false, false⟩

/-- Adds a command. -/
def add (s : Script) (sel : Selection) (a : Action) : Script :=
  { s with steps := s.steps.push ⟨sel, a⟩ }

/-- The action with the text that it was waiting for. -/
def withText (a : Action) (s : Text) : Action :=
  match a with
  | .append _ => .append s
  | .insert _ => .insert s
  | .change _ => .change s
  | a => a

/-- Whether an action was cut off before its text. -/
def awaitsText (a : Action) : Bool :=
  match a with
  | .append s | .insert s | .change s => s.isEmpty
  | _ => false

/-- Closes the innermost block at the place that has been reached. -/
def closeBlock (s : Script) : Option Script :=
  match s.opened with
  | [] => none
  | (start, _) :: opened =>
    match s.steps[start]? with
    | some step =>
      some { s with opened, steps := s.steps.setIfInBounds start { step with action := .block s.steps.size } }
    | none => some { s with opened }

/-- Reads the commands of a piece, whose number is told. -/
def readCommands (m : Manner) (piece : Nat) : (fuel : Nat) → Script → Reading Script
  | 0, s => return s
  | fuel + 1, s => do
    discard (takeWhile fun c => Text.isBlank c || c == ';')
    let line := (← get).line
    match ← next? with
    | none => return s
    | c =>
      let (sel, c) ← selection m c
      match c with
      | none => refuse "missing command"
      | some '#' =>
        if sel.first.isSome then refuse "comments don't accept any addresses"
        let place := (← get).taken
        let comment ← takeWhile (· != '\n')
        let silences := piece == 0 && place == 1 && comment == ['n']
        readCommands m piece fuel { s with silent := s.silent || silences }
      | some 'v' =>
        discard takeLabel
        readCommands m piece fuel s
      | some '\x7b' =>
        let s := { s with opened := (s.steps.size, piece, line) :: s.opened }
        readCommands m piece fuel (s.add sel (.block 0))
      | some '\x7d' =>
        match s.closeBlock with
        | none => refuse "unexpected \x60\x7d'"
        | some s =>
          if sel.first.isSome then refuse "\x60\x7d' doesn't want any addresses"
          endCommand
          readCommands m piece fuel s
      | some ':' =>
        if sel.first.isSome then refuse ": doesn't want any addresses"
        let label ← takeLabel
        if label.isEmpty then refuse "\":\" lacks a label"
        readCommands m piece fuel ({ s with labels := (label, s.steps.size) :: s.labels }.add sel .label)
      | some c =>
        if (c = 'q' ∨ c = 'Q') ∧ sel.last.isSome = true then
          refuse "command only uses one address"
        let a ← action m c
        let atEnd := (← peek).isNone
        readCommands m piece fuel { s.add sel a with unfinished := awaitsText a && atEnd }

/-- Reads a piece. -/
def readPiece (m : Manner) (number : Nat) (text : Text) (s : Script) : Reading Script := do
  let s ←
    if s.unfinished then
      let lines ← textLines (text.length + 1)
      match s.steps.back? with
      | some step =>
        let step := { step with action := withText step.action (spokenText lines) }
        pure { s with steps := s.steps.pop.push step, unfinished := false }
      | none => pure s
    else pure s
  readCommands m number (text.length + 1) s

/-- A fault in words. -/
def faultText (pieces : List Piece) (number : Nat) (cursor : Cursor) (fault : Fault) : Text :=
  let at_ (number : Nat) (place line : Nat) : Text :=
    match (pieces[number]?).map Piece.origin with
    | some (.argument n) =>
      "-e expression #".toList ++ Text.ofNat n ++ ", char ".toList ++ Text.ofNat place ++ ": ".toList
    | some (.file path) => "file ".toList ++ path ++ " line ".toList ++ Text.ofNat line ++ ": ".toList
    | none => []
  match fault with
  | .here message => at_ number cursor.taken cursor.line ++ message
  | .unclosed number line => at_ number 0 line ++ "unmatched \x60\x7b'".toList
  | .noLabel label => "can't find label for jump to \x60".toList ++ label ++ ['\'']

/-- A label that a jump asks for and that is not there. -/
def missingLabel? (s : Script) : Option Text :=
  s.steps.toList.findSome? fun step =>
    match step.action with
    | .jump _ label => if label ≠ [] ∧ (s.labels.lookup label).isNone then some label else none
    | _ => none

/-- Reads a script, or says what is wrong with it and with which status that ends. -/
def read (m : Manner) (pieces : List Piece) : Except (Text × Nat) Script := do
  let mut s := start
  let mut number := 0
  for piece in pieces do
    match (readPiece m number piece.text s).run.run ⟨piece.text, 0, 1⟩ with
    | (.ok s', _) => s := s'
    | (.error fault, cursor) => throw (faultText pieces number cursor fault, 1)
    number := number + 1
  match s.opened with
  | (_, piece, line) :: _ => throw (faultText pieces piece ⟨[], 0, 0⟩ (.unclosed piece line), 1)
  | [] =>
    match s.missingLabel? with
    | some label => throw (faultText pieces 0 ⟨[], 0, 0⟩ (.noLabel label), 4)
    | none => return s

end Script

end Manpage.Utility.Edit
