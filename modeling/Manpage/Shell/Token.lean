/-
# Tokens of a script

What a script is made of above the level of words, and what can be wrong with it.  What is found and
what was expected instead are told in the words of the shell that reads.
-/
import Manpage.Shell.Basic

namespace Manpage.Shell

/-- What kind of token it is. -/
inductive Kind
  | endOfText
  | newline
  | semicolon
  | background
  | both
  | either
  | pipe
  /-- A pipe for both outputs. -/
  | pipeAll
  | left
  | right
  /-- The end of an arm of a selection. -/
  | endArm
  /-- The same, and the selection goes on with the next arm. -/
  | endArmThrough
  /-- The same, and the selection goes on with the next arm that fits. -/
  | endArmOnward
  | redirection
  | word
  | keyword (name : String)
deriving DecidableEq, Repr

/-- What kind ends a list of commands. -/
def Kind.endsList : Kind → Bool
  | .endOfText | .right | .endArm | .endArmThrough | .endArmOnward => true
  | .keyword name => ["do", "done", "elif", "else", "esac", "fi", "then", "\x7d"].contains name
  | _ => false

/-- The keywords of both shells. -/
def keywords : List String :=
  ["!", "case", "do", "done", "elif", "else", "esac", "fi", "for", "if", "in", "then", "until",
   "while", "\x7b", "\x7d"]

/-- The keywords of the large shell alone. -/
def largeKeywords : List String := ["[[", "function", "select"]

/-- The keyword that a text is. -/
def keyword? (dialect : Dialect) (s : Text) : Option Kind :=
  let name := String.ofList s
  let known := match dialect with
    | .small => keywords
    | .large => keywords ++ largeKeywords
  if known.contains name then some (.keyword name) else none

/-- A token. -/
structure Token where
  kind : Kind
  /-- The word, of a word or a keyword. -/
  word : Word
  /-- The file number and the operator, of a redirection. -/
  fd : Option Nat
  operator : Text
  /-- The line on which it begins. -/
  line : Nat
  /-- How the word was written, which only the large shell keeps. -/
  shown : Text

/-- A token that is no more than its kind. -/
def Token.ofKind (kind : Kind) (line : Nat) : Token := ⟨kind, [], none, [], line, []⟩

instance : Inhabited Token := ⟨.ofKind .newline 0⟩

/-! ## Faults -/

/-- What is wrong with a script. -/
inductive Problem
  | unexpected (found : Kind) (expected : Option Kind)
  /-- A quotation or the like that never ends. -/
  | unterminated (mark : Char)
  /-- A list of values that never ends. -/
  | openList
  | missingBrace
  | missingParentheses
  | endInBackquotes
  | badLoopVariable
  | badFunctionName
  /-- The parentheses of a counted loop that do not hold three expressions. -/
  | badCounting
  /-- The large shell's complaint about a condition. -/
  | badCondition (message : Text)
deriving DecidableEq, Repr

/-- A script that cannot be read: the line, what is wrong, the token that was found, and the text of
the line. -/
structure SyntaxFault where
  line : Nat
  problem : Problem
  shown : Text
  source : Text
deriving DecidableEq, Repr

/-- What the small shell calls a kind of token. -/
def Kind.wording : Kind → Text
  | .endOfText => "end of file".toList
  | .newline => "newline".toList
  | .semicolon => "\";\"".toList
  | .background => "\"&\"".toList
  | .both => "\"&&\"".toList
  | .either => "\"||\"".toList
  | .pipe => "\"|\"".toList
  | .pipeAll => "\"|&\"".toList
  | .left => "\"(\"".toList
  | .right => "\")\"".toList
  | .endArm => "\";;\"".toList
  | .endArmThrough => "\";&\"".toList
  | .endArmOnward => "\";;&\"".toList
  | .redirection => "redirection".toList
  | .word => "word".toList
  | .keyword name => '"' :: name.toList ++ ['"']

/-- What is wrong, in the words of the small shell. -/
def Problem.wording : Problem → Text
  | .unexpected found none => found.wording ++ " unexpected".toList
  | .unexpected found (some expected) =>
    found.wording ++ " unexpected (expecting ".toList ++ expected.wording ++ [')']
  | .unterminated _ => "Unterminated quoted string".toList
  | .openList => "Missing ')'".toList
  | .missingBrace => "Missing '\x7d'".toList
  | .missingParentheses => "Missing '))'".toList
  | .endInBackquotes => "EOF in backquote substitution".toList
  | .badLoopVariable => "Bad for loop variable".toList
  | .badFunctionName => "Bad function name".toList
  | .badCounting => "arithmetic expression required".toList
  | .badCondition message => message

/-- The lines in which the large shell tells what is wrong. -/
def SyntaxFault.largeLines (fault : SyntaxFault) : List Text :=
  let quoted (s : Text) : Text := '\x60' :: s ++ ['\'']
  match fault.problem with
  | .unexpected .endOfText _ => ["syntax error: unexpected end of file".toList]
  | .unexpected .. | .badLoopVariable | .badFunctionName =>
    ["syntax error near unexpected token ".toList ++ quoted fault.shown, quoted fault.source]
  | .unterminated mark =>
    ["unexpected EOF while looking for matching ".toList ++ quoted [mark]]
  | .openList => ["unexpected EOF while looking for matching ".toList ++ quoted [')']]
  | .missingBrace => ["unexpected EOF while looking for matching ".toList ++ quoted ['\x7d']]
  | .missingParentheses => ["unexpected EOF while looking for matching ".toList ++ quoted [')']]
  | .endInBackquotes => ["unexpected EOF while looking for matching ".toList ++ quoted ['\x60']]
  | .badCounting =>
    ["syntax error: arithmetic expression required".toList,
     "syntax error: ".toList ++ quoted fault.shown]
  | .badCondition message =>
    [message, "syntax error near ".toList ++ quoted fault.shown, quoted fault.source]

end Manpage.Shell
