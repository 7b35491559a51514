/-
# The options block

Below the line that begins with `Options: ` each line describes one option, up to a blank line or
the end of the help text:

    -f, --file <arg> * what the option does

The words of such a line are a flag, a second flag if the next word begins with a hyphen, the word
`<arg>` if the option takes an argument, the mark `*`, and the words of the description.  Commas at
the end of a flag only separate it from the next and are left out.
-/
import Manpage.Text.Line
import Manpage.Help.Malformed

namespace Manpage

/-- One option of an applet. -/
structure OptionEntry where
  /-- The flags that name the option, one or two. -/
  flags : List Text
  takesArgument : Bool
  description : Text
deriving DecidableEq, Repr

namespace OptionEntry

/-- What the line above the options begins with. -/
def marker : Text := "Options: ".toList

/-- The word that says that an option takes an argument. -/
def argumentWord : Text := "<arg>".toList

/-- The word before a description. -/
def descriptionMark : Text := ['*']

/-- A flag without the commas at its end. -/
def flagOfWord (word : Text) : Text := Text.dropEndWhile (· == ',') word

/-- Takes the second flag, a first word that begins with a hyphen, off a list of words. -/
def takeAlias : List Text → List Text × List Text
  | word :: rest => if word.head? = some '-' then ([word], rest) else ([], word :: rest)
  | [] => ([], [])

/-- Takes the argument word off a list of words, and says whether it was there. -/
def takeArgument : List Text → Bool × List Text
  | word :: rest => if word = argumentWord then (true, rest) else (false, word :: rest)
  | [] => (false, [])

/-- The option that the words of a line describe. -/
def ofWords? : List Text → Option OptionEntry
  | [] => none
  | first :: rest =>
    let (second, rest) := takeAlias rest
    let (takesArgument, rest) := takeArgument rest
    match rest with
    | [] => none
    | mark :: description =>
      if mark = descriptionMark then
        some ⟨(first :: second).map flagOfWord, takesArgument, Text.join [' '] description⟩
      else none

/-- The option that a line describes, or a refusal that quotes the line. -/
def ofLine (applet line : Text) : Except Malformed OptionEntry :=
  match Text.words line with
  | [] => .error ⟨applet, line, .emptyOptionLine⟩
  | words =>
    match ofWords? words with
    | some entry => .ok entry
    | none => .error ⟨applet, line, .noDescriptionMark⟩

/-- The lines of the options block; `none` when the help text has none. -/
def block? (help : Text) : Option (List Text) := Text.blockBelow marker.isPrefixOf help

/-- The options of an applet in the order of their lines; the first line that describes none
refuses the help text. -/
def listOfHelp (applet help : Text) : Except Malformed (List OptionEntry) :=
  ((block? help).getD []).mapM (ofLine applet)

end OptionEntry

end Manpage
