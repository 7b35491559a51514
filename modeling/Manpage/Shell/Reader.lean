/-
# Reading the text of a script

A script is read character by character, one command at a time, since what a command does can change
how the next one is read.  A line feed after a backslash is read over in most places.  Documents that
belong to redirections are read at the end of the line, and are kept by number.
-/
import Manpage.Shell.Token

namespace Manpage.Shell

/-- A document that is still to be read. -/
structure AwaitedDocument where
  number : Nat
  mark : Text
  /-- Whether its text stands for itself. -/
  quoted : Bool
  /-- Whether tabs at the beginning of its lines are left out. -/
  tabs : Bool
  line : Nat
deriving DecidableEq, Repr

/-- A script that is being read. -/
structure Reader where
  dialect : Dialect
  rest : Text
  line : Nat
  /-- The whole text, and the number of its first line. -/
  source : Text
  firstLine : Nat
  aliases : List (Text × Text)
  /-- The aliases whose texts are being read, the inner ones first. -/
  expanding : List Text
  /-- The last token, and whether it is to be taken once more. -/
  last : Token
  again : Bool
  awaited : List AwaitedDocument
  /-- Whether words may hold groups of patterns. -/
  groups : Bool
  /-- The documents that have been read. -/
  documents : Array Word
  warnings : List (Nat × Text)

/-- A step of reading. -/
abbrev Reading := StateT Reader (Except SyntaxFault)

namespace Reading

/-- Stands in the text where that of an alias ends. -/
def aliasEnd : Char := Char.ofNat 256

/-! ## 1. Faults -/

/-- The text of a line of the script. -/
def lineText (r : Reader) (line : Nat) : Text :=
  ((Text.cutAt (· == '\n') r.source)[line - r.firstLine]?).getD []

/-- Refuses the script at a line. -/
def refuse {α : Type} (line : Nat) (problem : Problem) (shown : Text) : Reading α := do
  throw ⟨line, problem, shown, lineText (← get) line⟩

/-- Refuses the script where a text does not end. -/
def refuseOpen {α : Type} (start : Nat) (problem : Problem) : Reading α := do
  let r ← get
  match r.dialect with
  | .small => refuse r.line problem []
  | .large => refuse start problem []

/-- Refuses the last token. -/
def unexpected {α : Type} (expected : Option Kind) : Reading α := do
  let r ← get
  let t := r.last
  let shown := match t.kind with
    | .word | .keyword _ => unquoted t.word
    | .redirection => t.operator
    | .newline => "newline".toList
    | kind => kind.wording.filter (· != '"')
  let line := match r.dialect, t.kind with
    | .small, _ => r.line
    | .large, .endOfText => r.firstLine + ((r.source.filter (· == '\n')).length)
        + (if r.source.getLast? = some '\n' then 0 else 1)
    | .large, _ => t.line
  refuse line (.unexpected t.kind expected) shown

/-! ## 2. Characters -/

/-- A text without the joined lines at its beginning, and how many there were. -/
def withoutJoins : Text → Nat × Text
  | '\\' :: '\n' :: rest =>
    let (n, rest) := withoutJoins rest
    (n + 1, rest)
  | s => (0, s)

/-- Reads over joined lines. -/
def join : Reading Unit := do
  let r ← get
  match r.rest with
  | '\\' :: '\n' :: _ =>
    let (n, rest) := withoutJoins r.rest
    set { r with rest, line := r.line + n }
  | _ => pure ()

/-- The next character, which is not taken. -/
def peekRaw : Reading (Option Char) := do return (← get).rest.head?

/-- The next character behind joined lines, which is not taken. -/
def peek : Reading (Option Char) := do
  join
  peekRaw

/-- Takes the next character. -/
def takeRaw : Reading (Option Char) := do
  let r ← get
  match r.rest with
  | [] => return none
  | c :: rest =>
    set { r with rest, line := if c = '\n' then r.line + 1 else r.line }
    return some c

/-- Takes the next character behind joined lines. -/
def take : Reading (Option Char) := do
  join
  takeRaw

/-- Gives a character back. -/
def giveBack (c : Option Char) : Reading Unit := do
  match c with
  | none => pure ()
  | some c => modify fun r =>
      { r with rest := c :: r.rest, line := if c = '\n' then r.line - 1 else r.line }

/-- Takes a character if it is the next one. -/
def takeIf (c : Char) : Reading Bool := do
  if (← peek) = some c then
    discard take
    return true
  else return false

/-- Takes characters as long as they are in a class. -/
def takeWhile (p : Char → Bool) : Reading Text := do
  let rec go : (fuel : Nat) → Reading Text
    | 0 => return []
    | fuel + 1 => do
      match ← peek with
      | some c =>
        if p c then
          discard take
          return c :: (← go fuel)
        else return []
      | none => return []
  go ((← get).rest.length + 1)

/-- How many characters are left, for the bound of a loop. -/
def left : Reading Nat := do return (← get).rest.length + 1

/-! ## 3. Tokens -/

/-- What is looked for in a token. -/
structure Looking where
  newlines : Bool
  keywords : Bool
  aliases : Bool
  /-- The end mark of a document. -/
  mark : Bool

/-- Looks for nothing. -/
def Looking.plainly : Looking := ⟨false, false, false, false⟩

/-- Looks over line feeds, for keywords and aliases. -/
def Looking.anew : Looking := ⟨true, true, true, false⟩

/-- Looks for keywords and aliases. -/
def Looking.named : Looking := ⟨false, true, true, false⟩

/-- Makes the last token the next one again. -/
def putBack : Reading Unit := modify fun r => { r with again := true }

end Reading

end Manpage.Shell
