/-
# Commands of a shell

The form in which a script is read before it is run.  A word is a sequence of pieces: text that stands
for itself, quoted text, parameters, the output of commands, and arithmetic.  Commands are simple ones,
pipelines, and the compound commands of the shell.

There are two shells: a small one with the common rules, and a large one that has lists of values,
conditions and arithmetic as commands, and more.  What only the large one reads is marked so.
-/
import Manpage.Text.Octets

namespace Manpage.Shell

/-- Whose rules are followed. -/
inductive Dialect
  | small | large
deriving DecidableEq, Repr

/-- How a file is opened that a command is redirected to or from. -/
inductive Opening
  | input
  | output
  /-- To write to it even if files that are there are to be kept. -/
  | replace
  | append
  | update
deriving DecidableEq, Repr

/-- Which matches of a pattern are replaced. -/
inductive Extent
  | first | all | atStart | atEnd
deriving DecidableEq, Repr

mutual

/-- A piece of a word. -/
inductive Piece
  /-- Text outside quotes. -/
  | plain (s : Text)
  /-- Text inside quotes or after a backslash. -/
  | literal (s : Text)
  /-- A quotation mark: there is a field here even if it is empty. -/
  | quotes
  /-- The value of a parameter. -/
  | parameter (quoted : Bool) (p : Parameter)
  /-- The output of commands, which begin at a line. -/
  | output (quoted : Bool) (line : Nat) (body : Command)
  /-- The path of a file number behind which commands are, which give or take what goes through it; of
  the large shell. -/
  | process (input : Bool) (line : Nat) (body : Command)
  /-- The value of an arithmetic expression. -/
  | arithmetic (quoted : Bool) (expression : List Piece)
  /-- A list of values, each with its index if it has one, and how it was written; of the large
  shell. -/
  | list (items : List (Option (List Piece) × List Piece)) (shown : Text)

/-- A parameter and what is made of it. -/
inductive Parameter
  | mk (name : Text) (index : Index) (use : Use)

/-- Which of the values of a parameter is meant; only the large shell has more than one. -/
inductive Index
  | none
  /-- All values, joined to one word between quotes if `joined` holds. -/
  | all (joined : Bool)
  | place (index : List Piece)

/-- What is made of the value of a parameter. -/
inductive Use
  | value
  | length
  /-- Another word if the parameter is not set, or is empty and `colon` holds. -/
  | default (colon : Bool) (word : List Piece)
  /-- The same, and the parameter is set to it. -/
  | assign (colon : Bool) (word : List Piece)
  /-- Another word if the parameter is set. -/
  | alternative (colon : Bool) (word : List Piece)
  /-- A failure if the parameter is not set. -/
  | required (colon : Bool) (word : List Piece)
  /-- The value without a shortest or longest match of a pattern at its beginning or end. -/
  | strip (atEnd longest : Bool) (pattern : List Piece)
  /-- No use that there is; `source` is how it was written. -/
  | bad (source : Text) (word : List Piece)
  /-- The value with matches of a pattern replaced; of the large shell, as are all below. -/
  | replaced (extent : Extent) (pattern replacement : List Piece)
  /-- A part of the value, or some of the values. -/
  | slice (offset : List Piece) (size : Option (List Piece))
  /-- The value with its letters in upper or lower case, the first one or all. -/
  | letters (upper all : Bool) (pattern : List Piece)
  /-- The value in another form, which has a letter. -/
  | formed (kind : Char)
  /-- The value of the variable that the value names. -/
  | indirect (use : Use)
  /-- The indices of the values. -/
  | indices
  /-- The names of the variables that begin so. -/
  | names

/-- A redirection of a file number; `shown` is how its path was written. -/
inductive Redirect
  | file (fd : Nat) (opening : Opening) (path : List Piece) (shown : Text)
  /-- A copy of another number, or none; `input` says which way it was written. -/
  | copy (fd : Nat) (input : Bool) (source : List Piece)
  /-- A document in the script, by number. -/
  | document (fd : Nat) (number : Nat)
  /-- A word as a document. -/
  | word (fd : Nat) (word : List Piece)
  /-- Both outputs to a file. -/
  | outputs (appends : Bool) (path : List Piece) (shown : Text)

/-- What a variable is set to. -/
inductive Assigned
  | text (word : List Piece)
  | list (items : List (Option (List Piece) × List Piece)) (shown : Text)

/-- An assignment to a variable, or to one of its values. -/
inductive Assignment
  | mk (name : Text) (index : Option (List Piece)) (append : Bool) (value : Assigned)

/-- A condition of the large shell. -/
inductive Condition
  | word (w : List Piece)
  | unary (op : Text) (a : List Piece)
  | binary (op : Text) (a b : List Piece)
  | not (c : Condition)
  | both (a b : Condition)
  | either (a b : Condition)

/-- A command; `shown` is how its words were written. -/
inductive Command
  | simple (line : Nat) (assigns : List Assignment) (words : List (List Piece))
      (redirects : List Redirect)
  | pipe (stages : List Command)
  | negated (body : Command)
  | background (line : Nat) (body : Command)
  | sequence (first second : Command)
  | both (first second : Command)
  | either (first second : Command)
  | choice (condition yes : Command) (no : Option Command)
  | loop (untilTrue : Bool) (condition body : Command)
  | each (line : Nat) (name : Text) (words : Option (List (List Piece))) (shown : Text)
      (body : Command)
  | select (line : Nat) (word : List Piece) (shown : Text)
      (arms : List (List (List Piece) × Option Command × Fall))
  | subshell (line : Nat) (body : Command)
  | redirected (line : Nat) (body : Command) (redirects : List Redirect)
  | define (line : Nat) (name : Text) (body : Command)
  /-- A condition; of the large shell, as are all below. -/
  | condition (line : Nat) (c : Condition)
  | arithmetic (line : Nat) (expression : List Piece)
  | counted (line : Nat) (start test step : List Piece) (body : Command)
  /-- A loop that asks for one of several words each time. -/
  | menu (line : Nat) (name : Text) (words : Option (List (List Piece))) (body : Command)

/-- Where a selection goes on after an arm. -/
inductive Fall
  | nowhere
  /-- With the next arm. -/
  | through
  /-- With the next arm that fits. -/
  | onward

end

/-- A word of a script. -/
abbrev Word := List Piece

instance : Inhabited Command := ⟨.sequence (.pipe []) (.pipe [])⟩

/-! ## Names -/

/-- Whether a name may begin with a character. -/
def beginsName (c : Char) : Bool := c.isAlpha || c == '_'

/-- Whether a name may go on with a character. -/
def inName (c : Char) : Bool := c.isAlphanum || c == '_'

/-- Whether a text is the name of a variable. -/
def isName : Text → Bool
  | [] => false
  | c :: rest => beginsName c && rest.all inName

/-- Whether a character is a parameter by itself. -/
def isSpecialParameter (c : Char) : Bool := "!#$*-?@".toList.contains c || c.isDigit

/-! ## Words -/

/-- Puts text that stands side by side together. -/
def merge : List Piece → List Piece
  | .plain s :: rest =>
    match merge rest with
    | .plain t :: more => .plain (s ++ t) :: more
    | more => .plain s :: more
  | .literal s :: rest =>
    match merge rest with
    | .literal t :: more => .literal (s ++ t) :: more
    | more => .literal s :: more
  | p :: rest => p :: merge rest
  | [] => []

/-- The text of a word that is nothing but unquoted text. -/
def plainText? : Word → Option Text
  | [] => some []
  | [.plain s] => some s
  | _ => none

/-- Whether anything in a word is quoted. -/
def hasQuotes (w : Word) : Bool :=
  w.any fun
    | .literal _ | .quotes => true
    | _ => false

/-- A word without its quotes, as a text; parameters and the like leave nothing. -/
def unquoted (w : Word) : Text :=
  w.flatMap fun
    | .plain s | .literal s => s
    | _ => []

end Manpage.Shell
