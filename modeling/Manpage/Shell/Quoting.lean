/-
# Texts as a shell reads them

How a text is written such that a shell reads it as one word.  The small shell always uses single
quotes, and puts single quotes themselves between double ones; the large one puts a backslash before
them, and leaves out quotes that are not needed.
-/
import Manpage.Utility.Printf

namespace Manpage.Shell.Quoting

/-- Cuts a text into stretches of single quotes and of other characters. -/
def stretches : Text → List Text
  | [] => []
  | c :: rest =>
    match stretches rest with
    | (d :: s) :: more => if (c = '\'') = (d = '\'') then (c :: d :: s) :: more else [c] :: (d :: s) :: more
    | more => [c] :: more

/-- A text as the small shell writes it. -/
def small (s : Text) : Text :=
  if s = [] then ['\'', '\'']
  else
    (stretches s).flatMap fun t =>
      if t.head? = some '\'' then '"' :: t ++ ['"'] else '\'' :: t ++ ['\'']

/-- A text between single quotes, as the large shell writes it. -/
def large (s : Text) : Text :=
  if s.any fun c => !Utility.prints c then Utility.Printf.shellWord s
  else '\'' :: (s.flatMap fun c => if c = '\'' then "'\\''".toList else [c]) ++ ['\'']

/-- Whether the large shell needs quotes around a text. -/
def needsQuotes (s : Text) : Bool :=
  s.isEmpty || s.any fun c => !(c.isAlphanum || "%+-./:@_=,^".toList.contains c)

/-- A text as the large shell writes it, between quotes only if they are needed. -/
def largeIfNeeded (s : Text) : Text := if needsQuotes s then large s else s

/-- Whether a text, behind a character, has a tilde where a path may begin. -/
def hasTilde : (before : Option Char) → Text → Bool
  | _, [] => false
  | before, c :: rest =>
    (c == '~' && (before == none || before == some '=' || before == some ':')) || hasTilde (some c) rest

/-- Whether a text has a character that means something to a shell. -/
def hasMeaning (s : Text) : Bool :=
  s.head? == some '#' || hasTilde none s
    || s.any fun c => " \t\n'\"\\|&;()<>!\x7b\x7d*[]?^$\x60".toList.contains c

/-- A word of a command as the large shell shows it before it runs it. -/
def shown (s : Text) : Text :=
  if s = [] then ['\'', '\'']
  else if hasMeaning s then '\'' :: (s.flatMap fun c => if c = '\'' then "'\\''".toList else [c]) ++ ['\'']
  else if s.any fun c => !Utility.prints c then Utility.Printf.shellWord s
  else s

/-- A value between double quotes, as the large shell declares it. -/
def declared (s : Text) : Text :=
  if s.any fun c => !Utility.prints c then Utility.Printf.shellWord s
  else '"' :: (s.flatMap fun c => if "\"\\$\x60".toList.contains c then ['\\', c] else [c]) ++ ['"']

end Manpage.Shell.Quoting
