/-
# Splitting a command into words

A command is written on one line the way a shell takes it, and is split by these rules: blanks,
tabs and line feeds separate words; between single quotes everything stands for itself; between
double quotes a backslash takes the meaning from `$`, the backquote, `"`, `\` and itself stays
before anything else; elsewhere it takes the meaning from any character; a backslash before a line
feed joins two lines; and `#` where a word could begin starts a comment.  Nothing is expanded.
-/
import Manpage.Text.Basic

namespace Manpage

/-- Where in a command the splitting stands. -/
inductive Quoting
  | plain
  /-- After a backslash outside quotes. -/
  | escaped
  | single
  | double
  /-- After a backslash between double quotes. -/
  | doubleEscaped
  | comment
deriving DecidableEq, Repr

namespace Quoting

/-- The characters between words. -/
def separates (c : Char) : Bool := c == ' ' || c == '\t' || c == '\n'

/-- The characters that a backslash between double quotes takes the meaning from. -/
def yields (c : Char) : Bool := c == '$' || c == '\x60' || c == '"' || c == '\\'

/-- A character at the end of the word that is being read. -/
def extend (word : Option Text) (c : Char) : Option Text := some (word.getD [] ++ [c])

/-- The words of the rest of a command; `word` is the one being read, `none` between words.  A
quote that is not closed gives `none`. -/
def split : Quoting → (word : Option Text) → Text → Option (List Text)
  | .plain, word, [] => some word.toList
  | .plain, word, c :: rest =>
    if c = '\'' then split .single (some (word.getD [])) rest
    else if c = '"' then split .double (some (word.getD [])) rest
    else if c = '\\' then split .escaped word rest
    else if separates c then (split .plain none rest).map (word.toList ++ ·)
    else if c = '#' ∧ word = none then split .comment none rest
    else split .plain (extend word c) rest
  | .escaped, word, [] => some (extend word '\\').toList
  | .escaped, word, c :: rest =>
    if c = '\n' then split .plain word rest else split .plain (extend word c) rest
  | .single, _, [] => none
  | .single, word, c :: rest =>
    if c = '\'' then split .plain word rest else split .single (extend word c) rest
  | .double, _, [] => none
  | .double, word, c :: rest =>
    if c = '"' then split .plain word rest
    else if c = '\\' then split .doubleEscaped word rest
    else split .double (extend word c) rest
  | .doubleEscaped, _, [] => none
  | .doubleEscaped, word, c :: rest =>
    if c = '\n' then split .double word rest
    else if yields c then split .double (extend word c) rest
    else split .double (extend (extend word '\\') c) rest
  | .comment, _, [] => some []
  | .comment, _, c :: rest => if c = '\n' then split .plain none rest else split .comment none rest

end Quoting

/-- A rule by which commands are split into words; `none` for a command that cannot be split. -/
abbrev Splitter := Text → Option (List Text)

/-- The words of a command; `none` when a quote is not closed. -/
def splitWords? (command : Text) : Option (List Text) := Quoting.split .plain none command

end Manpage
