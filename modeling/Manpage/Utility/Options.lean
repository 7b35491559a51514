/-
# Options of commands

How the small commands read their arguments: options by letter or by name, with or without a value,
and operands between them.  What is wrong with an option is told in the same words by all commands.

The options that a command knows are written as one text, a word for each:

    n:lines=   q:quiet   -:color?

has a letter and a name with a value, both without, and a name alone whose value may be missing.
-/
import Manpage.System.Process

namespace Manpage.Utility

/-- Whether an option has a value. -/
inductive Takes
  | nothing
  | value
  | maybe
deriving DecidableEq, Repr

/-- An option that a command knows. -/
structure KnownOption where
  letter : Option Char
  name : Option Text
  takes : Takes
deriving DecidableEq, Repr

namespace KnownOption

/-- What the command calls the option: its letter, or its name if it has none. -/
def key (o : KnownOption) : Text :=
  match o.letter with
  | some c => [c]
  | none => o.name.getD []

/-- An option from the word for it. -/
def ofWord (word : Text) : KnownOption :=
  let takes := match word.getLast? with
    | some '=' => Takes.value
    | some '?' => Takes.maybe
    | _ => Takes.nothing
  let bare := if takes = .nothing then word else word.dropLast
  match bare with
  | [c] => ⟨some c, none, takes⟩
  | '-' :: ':' :: name => ⟨none, some name, takes⟩
  | c :: ':' :: name => ⟨some c, some name, takes⟩
  | name => ⟨none, some name, takes⟩

/-- The options of a text. -/
def ofString (s : String) : List KnownOption := (Text.words s.toList).map ofWord

end KnownOption

/-- An option that was given, by its key, with its value. -/
structure GivenOption where
  key : Text
  value : Option Text
deriving DecidableEq, Repr

/-- Options and operands. -/
structure Arguments where
  options : List GivenOption
  operands : List Text
deriving DecidableEq, Repr

namespace Arguments

/-- Whether an option was given. -/
def has (a : Arguments) (key : String) : Bool := a.options.any (·.key == key.toList)

/-- The values of an option, in order. -/
def values (a : Arguments) (key : String) : List Text :=
  a.options.filterMap fun o => if o.key = key.toList then o.value else none

/-- The last value of an option. -/
def value? (a : Arguments) (key : String) : Option Text := (a.values key).getLast?

/-- The last of several options that was given. -/
def lastOf? (a : Arguments) (keys : List String) : Option Text :=
  ((a.options.map (·.key)).filter fun k => keys.any (·.toList == k)).getLast?

/-- The options that a name could mean: the one of that name, or all whose name begins with it. -/
def named (known : List KnownOption) (name : Text) : List KnownOption :=
  match known.find? (·.name == some name) with
  | some o => [o]
  | none => known.filter fun o => match o.name with
    | some full => name.isPrefixOf full
    | none => false

/-- The letters of a word of options, and whether its last one needs the next argument. -/
def readLetters (known : List KnownOption) : Text → Except Text (List GivenOption × Option Text)
  | [] => .ok ([], none)
  | c :: rest =>
    match known.find? (·.letter == some c) with
    | none => .error ("invalid option -- '".toList ++ [c, '\''])
    | some o =>
      match o.takes with
      | .nothing => do
        let (more, missing) ← readLetters known rest
        return (⟨o.key, none⟩ :: more, missing)
      | .maybe => .ok ([⟨o.key, if rest = [] then none else some rest⟩], none)
      | .value => if rest = [] then .ok ([], some o.key) else .ok ([⟨o.key, some rest⟩], none)

/-- An option by name, and whether it needs the next argument. -/
def readNamed (known : List KnownOption) (text : Text) :
    Except Text (List GivenOption × Option Text) :=
  let name := text.takeWhile (· ≠ '=')
  let value := if text.contains '=' then some (text.drop (name.length + 1)) else none
  let candidates := named known name
  let shown (s : Text) : Text := "'--".toList ++ s ++ ['\'']
  match candidates with
  | [] => .error ("unrecognized option ".toList ++ shown text)
  | o :: others =>
    if others.any fun p => p.key ≠ o.key ∨ p.takes ≠ o.takes then
      .error ("option ".toList ++ shown name ++ " is ambiguous; possibilities:".toList
        ++ candidates.flatMap fun c => ' ' :: shown (c.name.getD []))
    else
      let full := o.name.getD []
      match o.takes, value with
      | .nothing, some _ =>
        .error ("option ".toList ++ shown full ++ " doesn't allow an argument".toList)
      | .value, none => .ok ([], some o.key)
      | _, value => .ok ([⟨o.key, value⟩], none)

/-- Reads arguments; `strict` takes everything from the first operand on for operands. -/
def read (known : List KnownOption) (strict : Bool) : List Text → Except Text Arguments
  | [] => .ok ⟨[], []⟩
  | arg :: rest =>
    let isOption := arg.length > 1 && arg.head? == some '-'
    if arg = ['-', '-'] then .ok ⟨[], rest⟩
    else if !isOption then
      if strict then .ok ⟨[], arg :: rest⟩
      else do
        let more ← read known strict rest
        return { more with operands := arg :: more.operands }
    else do
      let isNamed := (['-', '-'] : Text).isPrefixOf arg
      let (given, missing) ←
        if isNamed then readNamed known (arg.drop 2) else readLetters known (arg.drop 1)
      match missing, rest with
      | none, rest =>
        let more ← read known strict rest
        return { more with options := given ++ more.options }
      | some key, value :: rest =>
        let more ← read known strict rest
        return { more with options := given ++ ⟨key, some value⟩ :: more.options }
      | some key, [] =>
        if isNamed then
          let full := ((named known (arg.drop 2)).head?.bind (·.name)).getD []
          .error ("option '--".toList ++ full ++ "' requires an argument".toList)
        else .error ("option requires an argument -- '".toList ++ key ++ ['\''])

end Arguments

/-- The hint that follows a message about arguments. -/
def hint : Work Unit := do
  Work.errors ("Try '".toList ++ (← get).name ++ " --help' for more information.\n".toList)

/-- Ends a command whose arguments are wrong. -/
def misuse {α : Type} (status : Nat) (message : Text) : Work α := do
  Work.complain message
  hint
  throw (.exited status)

/-- Ends a command that is asked how it is used, which is told in few words, or for its version. -/
def answerAbout (a : Arguments) (use version : String) : Work Unit := do
  let name := (← get).name
  if a.has "help" then
    Work.out ("Usage: ".toList ++ name ++ ' ' :: use.toList ++ ['\n'])
    throw (.exited 0)
  if a.has "version" then
    Work.out (name ++ ' ' :: version.toList ++ ['\n'])
    throw (.exited 0)

/-- Reads the arguments of a command, or ends it with a status. -/
def arguments (known : String) (args : List Text) (status : Nat) (strict : Bool) : Work Arguments := do
  match Arguments.read (KnownOption.ofString (known ++ " -:help -:version")) strict args with
  | .ok a =>
    answerAbout a "[OPTION]... [FILE]..." "9.4"
    return a
  | .error message => misuse status message

/-! ## Names in messages -/

/-- Whether a character has a meaning to a shell that reads it. -/
def isSpecial (c : Char) : Bool := " !\"$&()*;<=>[^\x60|?\\\t\n\r\x0b\x0c".toList.contains c

/-- Whether a character of a text of bytes prints. -/
def prints (c : Char) : Bool := 0x20 ≤ c.toNat && c.toNat < 0x7F

/-- A character that does not print, as it can be written to a shell. -/
def escapedOctet (c : Char) : Text :=
  match c with
  | '\n' => "\\n".toList
  | '\t' => "\\t".toList
  | '\r' => "\\r".toList
  | '\x07' => "\\a".toList
  | '\x08' => "\\b".toList
  | '\x0b' => "\\v".toList
  | '\x0c' => "\\f".toList
  | c =>
    let n := c.toNat
    '\\' :: [Char.ofNat (48 + n / 64), Char.ofNat (48 + n / 8 % 8), Char.ofNat (48 + n % 8)]

/-- The inside of a name between single quotes: stretches that do not print stand in quotes of their
own; `outside` says that such a stretch is being written. -/
def quotedStretches : (outside : Bool) → Text → Text
  | true, [] => ['\'']
  | false, [] => []
  | outside, c :: rest =>
    if prints c then
      (if outside then "''".toList else []) ++
        (if c = '\'' then "'\\''".toList else [c]) ++ quotedStretches false rest
    else
      (if outside then [] else "'$'".toList) ++ escapedOctet c ++ quotedStretches true rest

/-- A name between quotes, such that a shell would read it as it is. -/
def quotedName (s : Text) : Text :=
  let onlyApostrophes := s.all fun c => prints c && !("\"$\\\x60!".toList.contains c)
  if s.contains '\'' && onlyApostrophes then '"' :: s ++ ['"']
  else
    let body := quotedStretches false s
    let closed := s.getLast?.all prints
    '\'' :: body ++ (if closed then ['\''] else [])

/-- A name, between quotes only if a shell would not read it as it is. -/
def shownName (s : Text) : Text :=
  let special := s.any fun c => isSpecial c || !prints c || c == '\'' || c == ':'
  let atStart := match s.head? with
    | some c => c == '#' || c == '~'
    | none => true
  let brace := s == ['\x7b'] || s == ['\x7d']
  if special || atStart || brace then quotedName s else s

/-- A word of the arguments between single quotes, with what does not print escaped. -/
def quotedWord (s : Text) : Text :=
  '\'' :: (s.flatMap fun c =>
    if c = '\'' ∨ c = '\\' then ['\\', c] else if prints c then [c] else escapedOctet c) ++ ['\'']

end Manpage.Utility
