/-
# The words of programs for reports

A program is cut into words before it is read: numbers, texts, regular expressions, names and signs.  A
slash begins a regular expression where no operand stands before it.
-/
import Manpage.Awk.Syntax
import Manpage.Regex.Reader

namespace Manpage.Awk

open Manpage.Utility (ofDigits hexValue? takeMagnitude)

/-- A word of a program. -/
inductive Word
  | number (n : Number)
  | text (s : Text)
  | regex (r : Regex) (written : Text)
  | name (x : Text)
  /-- The name of a function in front of its arguments. -/
  | call (x : Text)
  | builtin (b : Builtin)
  | keyword (s : String)
  | sign (s : String)
  | newline
deriving Repr

/-- A word with its line and how it is written. -/
structure Placed where
  word : Word
  line : Nat
  written : Text
deriving Repr

/-- What is wrong with a program. -/
structure Refusal where
  message : Text
deriving Repr

namespace Scanner

/-- The words with a meaning of their own. -/
def keywords : List String :=
  ["BEGIN", "END", "function", "if", "else", "while", "for", "do", "break", "continue", "next", "nextfile",
    "exit", "return", "delete", "in", "getline", "print", "printf"]

/-- The functions that every program knows, by name. -/
def builtins : List (String × Builtin) :=
  [("length", .length), ("substr", .substr), ("index", .index), ("split", .split), ("sub", .sub),
    ("gsub", .gsub), ("match", .position), ("sprintf", .sprintf), ("tolower", .tolower),
    ("toupper", .toupper), ("int", .int), ("sqrt", .sqrt), ("exp", .exp), ("log", .log), ("sin", .sin),
    ("cos", .cos), ("atan2", .atan2), ("rand", .rand), ("srand", .srand), ("system", .system),
    ("close", .close), ("fflush", .fflush)]

/-- The signs, the longer ones first. -/
def signs : List String :=
  ["&&", "||", "++", "--", "+=", "-=", "*=", "/=", "%=", "^=", "==", "<=", ">=", "!=", "!~", ">>",
    "\x7b", "\x7d", "(", ")", "[", "]", ";", ",", "+", "-", "*", "/", "%", "^", "!", ">", "<", "|", "?",
    ":", "~", "$", "="]

/-- Whether a slash behind a word divides. -/
def dividesAfter : Option Word → Bool
  | some (.number _) | some (.text _) | some (.name _) | some (.builtin .length) => true
  | some (.sign s) => [")", "]", "$", "++", "--"].contains s
  | _ => false

/-- The character that an escape in a text stands for, with what follows it. -/
def escape (c : Char) (rest : Text) : Text × Text :=
  match List.lookup c [('"', '"'), ('\\', '\\'), ('a', '\x07'), ('b', '\x08'), ('f', '\x0c'), ('n', '\n'),
      ('r', '\r'), ('t', '\t'), ('v', '\x0b')] with
  | some meant => ([meant], rest)
  | none =>
    if '0' ≤ c ∧ c ≤ '7' then
      let digits := ((c :: rest).take 3).takeWhile fun d => '0' ≤ d && d ≤ '7'
      ([Char.ofNat (ofDigits 8 digits % 256)], (c :: rest).drop digits.length)
    else if c = 'x' then
      let digits := (rest.take 2).takeWhile fun d => (hexValue? d).isSome
      if digits.isEmpty then (['\\', 'x'], rest)
      else ([Char.ofNat (ofDigits 16 digits)], rest.drop digits.length)
    else if c = '\n' then ([], rest)
    else (['\\', c], rest)

/-- A text with its escapes. -/
def unescape : (fuel : Nat) → Text → Text
  | 0, s => s
  | _ + 1, [] => []
  | fuel + 1, '\\' :: c :: rest =>
    let (s, rest) := escape c rest
    s ++ unescape fuel rest
  | fuel + 1, c :: rest => c :: unescape fuel rest

/-- Takes what is written in a text up to its closing quote; none if there is no such. -/
def takeText : Text → Option (Text × Text)
  | [] => none
  | '"' :: rest => some ([], rest)
  | '\n' :: _ => none
  | '\\' :: c :: rest => (takeText rest).map fun (s, more) => ('\\' :: c :: s, more)
  | c :: rest => (takeText rest).map fun (s, more) => (c :: s, more)

/-- Takes what is written in a regular expression up to its closing slash; none if there is no such. -/
def takeRegex : (bracket : Bool) → Text → Option (Text × Text)
  | _, [] => none
  | _, '\n' :: _ => none
  | false, '/' :: rest => some ([], rest)
  | bracket, '\\' :: c :: rest =>
    (takeRegex bracket rest).map fun (s, more) => (if c = '/' then c :: s else '\\' :: c :: s, more)
  | false, '[' :: '^' :: ']' :: rest =>
    (takeRegex true rest).map fun (s, more) => ('[' :: '^' :: ']' :: s, more)
  | false, '[' :: ']' :: rest => (takeRegex true rest).map fun (s, more) => ('[' :: ']' :: s, more)
  | false, '[' :: rest => (takeRegex true rest).map fun (s, more) => ('[' :: s, more)
  | true, ']' :: rest => (takeRegex false rest).map fun (s, more) => (']' :: s, more)
  | bracket, c :: rest => (takeRegex bracket rest).map fun (s, more) => (c :: s, more)

/-- What is wrong with an expression, in the words for it. -/
def regexFault (message : Text) : Text :=
  let found := List.lookup (String.ofList message)
    [("Unmatched ( or \\(", "missing ')'"), ("Invalid preceding regular expression", "missing operand"),
      ("Invalid character class name", "bad class -- [], [^] or ["),
      ("Invalid content of \\\x7b\\\x7d", "bad interval expression")]
  ("regular expression compile failed (".toList ++ (found.getD "bad class -- [], [^] or [").toList ++ [')'])

/-- What an expression lacks, in the words for it: an operand of a bar or in parentheses, or something
that a count can be for. -/
def lack? : (begins : Bool) → (start : Bool) → (bracket : Bool) → Text → Option String
  | begins, start, _, [] => if begins ∧ start = false then some "missing operand" else none
  | _, _, bracket, '\\' :: _ :: rest => lack? false false bracket rest
  | _, _, true, c :: rest => lack? false false (c != ']') rest
  | _, _, false, '[' :: '^' :: _ :: rest => lack? false false true rest
  | _, _, false, '[' :: _ :: rest => lack? false false true rest
  | _, _, false, '^' :: '*' :: _ | _, _, false, '^' :: '+' :: _ => some "syntax error ^* or ^+"
  | begins, start, false, c :: rest =>
    if c = '|' then (if begins then some "missing operand" else lack? true false false rest)
    else if c = '(' then lack? true false false rest
    else if c = ')' ∧ begins ∧ start = false then some "missing operand"
    else lack? false false false rest

/-- An expression from how it is written. -/
def regex (written : Text) : Except Text Regex :=
  match Regex.read ⟨true, false, true⟩ written with
  | .ok r =>
    match lack? true true false written with
    | none => .ok r
    | some fault =>
      .error ("regular expression compile failed (".toList ++ fault.toList ++ ")\n".toList ++ written)
  | .error message => .error (regexFault message ++ '\n' :: written)

/-- A line in front of a message. -/
def atLine (line : Nat) (message : Text) : Text :=
  "line ".toList ++ Text.ofNat line ++ ": ".toList ++ message

/-- The beginning of a text that has no end. -/
def beginning (s : Text) : Text := (s.takeWhile (· != '\n')).take 10

/-- A text without the backslashes in front of slashes. -/
def bareSlashes : Text → Text
  | '\\' :: '/' :: rest => '/' :: bareSlashes rest
  | c :: rest => c :: bareSlashes rest
  | [] => []

/-- Whether a number is too large or too small for its precision. -/
def overflows (n : Number) : Bool :=
  match n.magnitude with
  | .finite f => f.num != 0 && f.num * Nat.pow 2 1022 < f.den
  | _ => true

/-- The next word of a program and what follows it. -/
def word (previous : Option Word) (line : Nat) (c : Char) (rest : Text) : Except Refusal (Word × Text) :=
  let s := c :: rest
  if c = '"' then
    match takeText rest with
    | some (written, rest) => .ok (.text (unescape (written.length + 1) written), rest)
    | none =>
      .error ⟨atLine line ("runaway string constant \"".toList ++ beginning rest ++ " ...".toList)⟩
  else if c = '/' ∧ dividesAfter previous = false then
    match takeRegex false rest with
    | some (written, rest) =>
      match regex written with
      | .ok r => .ok (.regex r written, rest)
      | .error message => .error ⟨atLine line message⟩
    | none =>
      .error ⟨atLine line ("runaway regular expression /".toList ++ beginning (bareSlashes rest)
        ++ " ...".toList)⟩
  else if c.isDigit ∨ (c = '.' ∧ (rest.head?.map Char.isDigit).getD false = true) then
    match takeMagnitude s with
    | some (m, rest) =>
      let n := Number.rounded ⟨false, m⟩
      if overflows n then
        .error ⟨atLine line (s.take (s.length - rest.length) ++ " : decimal overflow".toList)⟩
      else .ok (.number n, rest)
    | none => .error ⟨atLine line "syntax error".toList⟩
  else if c.isAlpha ∨ c = '_' then
    let name := s.takeWhile fun d => d.isAlphanum || d == '_'
    let rest := s.drop name.length
    match keywords.find? (·.toList == name), builtins.find? (·.1.toList == name) with
    | some k, _ => .ok (.keyword k, rest)
    | none, some (_, b) => .ok (.builtin b, rest)
    | none, none => .ok (if rest.head? = some '(' then .call name else .name name, rest)
  else
    match signs.findSome? fun sign => (sign.toList.isPrefixOf? s).map fun rest => (sign, rest) with
    | some (sign, rest) => .ok (.sign sign, rest)
    | none =>
      .error ⟨Text.ofNat line ++ ": unexpected character '".toList ++ [c, '\'']⟩

/-- Cuts a program into words. -/
def words : (fuel : Nat) → (previous : Option Word) → (line : Nat) → Text → Except Refusal (List Placed)
  | 0, _, _, _ => .ok []
  | _ + 1, _, _, [] => .ok []
  | fuel + 1, previous, line, c :: rest =>
    if c = ' ' ∨ c = '\t' ∨ c = '\r' then words fuel previous line rest
    else if c = '#' then words fuel previous line (rest.dropWhile (· != '\n'))
    else if c = '\n' then do
      let more ← words fuel (some .newline) (line + 1) rest
      return ⟨.newline, line, "end of line".toList⟩ :: more
    else
      match c, rest with
      | '\\', '\n' :: rest => words fuel previous (line + 1) rest
      | '\\', '\r' :: '\n' :: rest => words fuel previous (line + 1) rest
      | _, _ => do
        let (w, left) ← word previous line c rest
        let written := (c :: rest).take (rest.length + 1 - left.length)
        let more ← words fuel (some w) (line + (written.filter (· == '\n')).length) left
        return ⟨w, line, written⟩ :: more

end Scanner

end Manpage.Awk
