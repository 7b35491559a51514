/-
# Conditions

The conditions of the command `test`: of texts, of numbers, of files, and of several of these together.
The small shell reads them by one grammar whatever their number; the others have fixed readings for up
to four arguments.
-/
import Manpage.Utility.Options
import Manpage.Utility.Decimal

namespace Manpage.Utility.Test

/-- Who judges: the small shell, the large shell, or the command by itself. -/
inductive Style
  | shell | largeShell | program
deriving DecidableEq, Repr

/-- A judgement, which may be refused with a message. -/
abbrev Judging := ExceptT Text Work

/-- Refuses. -/
def refuse {α : Type} (message : Text) : Judging α := throw message

/-! ## 1. Files, numbers and texts -/

/-- The location of a path. -/
def locationOf (path : Text) : Work (Option Location) := do
  match (← Work.files).locate (← get).cwd (Text.ofOctets path) with
  | .ok l => return some l
  | .error _ => return none

/-- Whether a file is what a letter asks for. -/
def fileIs (letter : Char) (path : Text) : Work Bool := do
  if path.isEmpty then return false
  let isDevice := match ← locationOf path with
    | some l => (System.device? l).isSome
    | none => false
  match ← Work.stat path with
  | .error _ => return false
  | .ok entry =>
    let isFile := !entry.isDirectory && !isDevice
    let size := match entry with
      | .file _ content => content.length
      | .directory => 1
    let mode := match entry with
      | .file mode _ => mode
      | .directory => 0o755
    return match letter with
      | 'd' => entry.isDirectory
      | 'f' => isFile
      | 'c' => isDevice
      | 's' => 0 < size && !isDevice
      | 'x' => mode &&& 0o111 != 0
      | 'u' => mode &&& 0o4000 != 0
      | 'g' => mode &&& 0o2000 != 0
      | 'k' => mode &&& 0o1000 != 0
      | 'b' | 'p' | 'S' | 'h' | 'L' | 'N' => false
      | _ => true

/-- The letters of the conditions on files. -/
def fileLetters : Style → Text
  | .shell => "rwxefdcbpugkhLsSOG".toList
  | _ => "aerwxfdcbpugkhLsSOGN".toList

/-- Compares two files: whether they are the same, or one is there and the other is not. -/
def compareFiles (style : Style) (op a b : Text) : Work Bool := do
  let la ← locationOf a
  let lb ← locationOf b
  let hasA ← fileIs 'e' a
  let hasB ← fileIs 'e' b
  if op = "-ef".toList then return hasA && hasB && la == lb
  else if style = .shell then return false
  else if op = "-nt".toList then return hasA && !hasB
  else return !hasA && hasB

/-- A whole number with white space around it. -/
def number? (style : Style) (s : Text) : Option Int :=
  let isSpace (c : Char) : Bool := c == ' ' || ('\t' ≤ c && c ≤ '\r')
  let t := Text.dropEndWhile isSpace (s.dropWhile isSpace)
  let (negative, digits) := match t with
    | '-' :: r => (true, r)
    | '+' :: r => (false, r)
    | r => (false, r)
  if digits.isEmpty || !digits.all Char.isDigit then none
  else
    let n : Int := ofDigits 10 digits
    let n := if negative then -n else n
    if style ≠ .program ∧ (n < -Int.pow 2 63 ∨ Int.pow 2 63 ≤ n) then none else some n

/-- A number, or a refusal. -/
def number (style : Style) (s : Text) : Judging Int :=
  match number? style s with
  | some n => pure n
  | none => refuse <| match style with
    | .shell => "Illegal number: ".toList ++ s
    | .largeShell => s ++ ": integer expression expected".toList
    | .program => "invalid integer ".toList ++ quotedWord s

/-- Whether a text comes before another by its bytes. -/
def comesBefore : Text → Text → Bool
  | _, [] => false
  | [], _ :: _ => true
  | a :: s, b :: t => if a = b then comesBefore s t else a.toNat < b.toNat

/-- The operators between numbers. -/
def numberOperators : List (String × (Int → Int → Bool)) :=
  [("-eq", fun a b => a == b), ("-ne", fun a b => a != b), ("-lt", fun a b => a < b),
   ("-le", fun a b => a ≤ b), ("-gt", fun a b => b < a), ("-ge", fun a b => b ≤ a)]

/-- Whether a word is an operator between two others. -/
def isBinary (style : Style) (op : Text) : Bool :=
  let s := String.ofList op
  ["=", "!=", "-nt", "-ot", "-ef"].contains s || (numberOperators.lookup s).isSome
    || (style ≠ .shell && s == "==") || (style ≠ .program && (s == "<" || s == ">"))

/-- Judges an operator between two words. -/
def binary (style : Style) (a op b : Text) : Judging Bool := do
  let s := String.ofList op
  match numberOperators.lookup s with
  | some holds =>
    let x ← number style a
    let y ← number style b
    return holds x y
  | none =>
    if s = "=" ∨ s = "==" then return a == b
    else if s = "!=" then return a != b
    else if s = "<" then return comesBefore a b
    else if s = ">" then return comesBefore b a
    else compareFiles style op a b

/-- Whether a word is an operator before another. -/
def isUnary (style : Style) (op : Text) : Bool :=
  match op with
  | ['-', c] => "nzt".toList.contains c || (fileLetters style).contains c
      || (style == .largeShell && "vo".toList.contains c)
  | _ => false

/-- Judges an operator before a word. -/
def unary (style : Style) (op a : Text) : Judging Bool := do
  match op with
  | ['-', 'n'] => return !a.isEmpty
  | ['-', 'z'] => return a.isEmpty
  | ['-', 't'] =>
    if style = .largeShell ∧ (number? style a).isNone then return false
    discard (number style a)
    return false
  | ['-', 'v'] => return (← (Work.binding? a : Work _)).isSome
  | ['-', 'o'] => return false
  | ['-', c] => fileIs c a
  | _ => return false

/-! ## 2. One grammar -/

/-- What a word is to the one grammar. -/
inductive Token
  | operand | not | both | either | left | right | unary | binary | nothing
deriving DecidableEq, Repr

/-- What a word means by itself. -/
def operatorKind? (op : Text) : Option Token :=
  match String.ofList op with
  | "!" => some .not
  | "-a" => some .both
  | "-o" => some .either
  | "(" => some .left
  | ")" => some .right
  | _ =>
    if isUnary .shell op then some .unary
    else if isBinary .shell op then some .binary
    else none

/-- What the first of some words is: an operator before others is an operand if no operand follows. -/
def tokenOf : List Text → Token
  | [] => .nothing
  | s :: rest =>
    match operatorKind? s with
    | none => .operand
    | some .unary =>
      match rest with
      | [] => .operand
      | [_] => .unary
      | next :: _ => if operatorKind? next = some .binary then .operand else .unary
    | some .left => if rest.isEmpty then .operand else .left
    | some t => t

/-- Refuses with the operator that is the matter. -/
def refuseAt {α : Type} (op : Text) (message : String) : Judging α :=
  refuse (op ++ ": ".toList ++ message.toList)

/-- What the grammar is asked to read. -/
inductive Goal
  | either | both | negated | primary

/-- Judges words from the first on, of which it is known what it is; gives the words from the last one
that was taken on. -/
def judge : (fuel : Nat) → Goal → Token → List Text → Judging (Bool × List Text)
  | 0, _, _, words => return (false, words)
  | fuel + 1, .either, t, words => do
    let (a, words) ← judge fuel .both t words
    if tokenOf (words.drop 1) = .either then
      let (b, words) ← judge fuel .either (tokenOf (words.drop 2)) (words.drop 2)
      return (a || b, words)
    else return (a, words)
  | fuel + 1, .both, t, words => do
    let (a, words) ← judge fuel .negated t words
    if tokenOf (words.drop 1) = .both then
      let (b, words) ← judge fuel .both (tokenOf (words.drop 2)) (words.drop 2)
      return (a && b, words)
    else return (a, words)
  | fuel + 1, .negated, t, words => do
    if t ≠ .not then judge fuel .primary t words
    else
      let next := tokenOf (words.drop 1)
      let (a, words) ← judge fuel .negated next (if next = .nothing then words else words.drop 1)
      return (!a, words)
  | fuel + 1, .primary, t, words => do
    match t with
    | .nothing => return (false, words)
    | .left =>
      let inner := words.drop 1
      let next := tokenOf inner
      if next = .right then return (false, inner)
      else
        let (a, words) ← judge fuel .either next inner
        let words := words.drop 1
        if tokenOf words = .right then return (a, words)
        else refuse "closing paren expected".toList
    | .unary =>
      match words with
      | op :: a :: rest => return (← unary .shell op a, a :: rest)
      | op :: _ => refuseAt op "argument expected"
      | [] => return (false, words)
    | _ =>
      match words with
      | a :: op :: rest =>
        if tokenOf (op :: rest) = .binary then
          match rest with
          | b :: rest => return (← binary .shell a op b, b :: rest)
          | [] => refuseAt op "argument expected"
        else return (!a.isEmpty, words)
      | [a] => return (!a.isEmpty, words)
      | [] => return (false, words)

/-- Judges all words by the one grammar, from a first one of which it is known what it is. -/
def judgeFrom (turned : Bool) (t : Token) (words : List Text) : Judging Bool := do
  let (a, rest) ← judge (4 * words.length + 8) .either t words
  match rest with
  | last :: _ :: _ => refuseAt last "unexpected operator"
  | _ => return a != turned

/-- Judges words by the one grammar, after the readings that are fixed for three and four of them: an
operator in the middle, parentheses around, and a negation in front.  `depth` bounds the number of
negations. -/
def judgeAll : (depth : Nat) → (turned : Bool) → List Text → Judging Bool
  | 0, turned, words => judgeFrom turned (tokenOf words) words
  | depth + 1, turned, words => do
    let inBrackets := words.head? = some ['('] && words.getLast? = some [')']
    let inner := (words.drop 1).dropLast
    match words with
    | [a, op, _] =>
      if operatorKind? op = some .binary then judgeFrom turned .operand words
      else if inBrackets then judgeFrom turned (tokenOf inner) inner
      else if a = ['!'] then judgeAll depth true (words.drop 1)
      else judgeFrom turned (tokenOf words) words
    | [a, _, _, _] =>
      if inBrackets then judgeFrom turned (tokenOf inner) inner
      else if a = ['!'] then judgeAll depth true (words.drop 1)
      else judgeFrom turned (tokenOf words) words
    | [] => return false
    | _ => judgeFrom turned (tokenOf words) words

/-! ## 3. Readings by number -/

/-- The refusals of the readings by number. -/
def expects (style : Style) (word : Text) (what : String) : Text :=
  (if style = .program then quotedWord word else word) ++ ": ".toList ++ what.toList
    ++ " operator expected".toList

/-- The refusal when a word is missing behind the last one. -/
def missing (style : Style) (words : List Text) : Text :=
  match style with
  | .program => "missing argument after ".toList ++ quotedWord (words.getLastD [])
  | _ => "argument expected".toList

/-- Judges two words. -/
def two (style : Style) (a b : Text) : Judging Bool := do
  if a = ['!'] then return b.isEmpty
  else if isUnary style a then unary style a b
  else
    match a with
    | ['-', _] => refuse (expects style a "unary")
    | _ => refuse (if style = .program then missing style [a, b] else expects style a "unary")

/-- Judges three words. -/
def three (style : Style) (a op b : Text) : Judging Bool := do
  if isBinary style op then binary style a op b
  else if op = "-a".toList then return !a.isEmpty && !b.isEmpty
  else if op = "-o".toList then return !a.isEmpty || !b.isEmpty
  else if a = ['!'] then return !(← two style op b)
  else if a = ['('] ∧ b = [')'] then return !op.isEmpty
  else refuse (expects style op "binary")

/-- Judges words of which there are more, by the grammar of alternatives. -/
def expression (style : Style) (all : List Text) : (fuel : Nat) → (level : Nat) → List Text →
    Judging (Bool × List Text)
  | 0, _, words => return (false, words)
  | fuel + 1, level, words => do
    match level with
    | 0 | 1 =>
      let op := if level = 0 then "-o".toList else "-a".toList
      let (a, rest) ← expression style all fuel (level + 1) words
      match rest with
      | next :: rest' =>
        if next = op then
          let (b, rest) ← expression style all fuel level rest'
          return (if level = 0 then a || b else a && b, rest)
        else return (a, rest)
      | [] => return (a, [])
    | _ =>
      match words with
      | [] => refuse (missing style all)
      | ['!'] :: rest =>
        if rest.isEmpty then refuse (missing style all)
        else
          let (a, rest) ← expression style all fuel 2 rest
          return (!a, rest)
      | ['('] :: rest =>
        let (a, rest) ← expression style all fuel 0 rest
        match rest with
        | [')'] :: rest => return (a, rest)
        | [] => refuse (if style = .program then "')' expected".toList else "\x60)' expected".toList)
        | found :: _ =>
          refuse (if style = .program then "')' expected, found ".toList ++ quotedWord found
            else "\x60)' expected, found ".toList ++ found)
      | a :: op :: b :: rest =>
        if isBinary style op then return (← binary style a op b, rest)
        else if isUnary style a then return (← unary style a op, b :: rest)
        else return (!a.isEmpty, op :: b :: rest)
      | [a, b] =>
        if isUnary style a then return (← unary style a b, [])
        else return (!a.isEmpty, [b])
      | [a] => return (!a.isEmpty, [])

/-- Judges words by the readings for their number. -/
def byNumber (style : Style) (words : List Text) : Judging Bool := do
  let general : Judging Bool := do
    let (a, rest) ← expression style words (4 * words.length + 8) 0 words
    match rest with
    | [] => return a
    | extra :: _ =>
      refuse <| match style with
        | .program => "extra argument ".toList ++ quotedWord extra
        | _ => if extra.head? = some '-' then
            "syntax error: \x60".toList ++ extra ++ "' unexpected".toList
          else "too many arguments".toList
  match words with
  | [] => return false
  | [a] => return !a.isEmpty
  | [a, b] => two style a b
  | [a, b, c] => three style a b c
  | [a, b, c, d] =>
    if a = ['!'] then return !(← three style b c d)
    else if a = ['('] ∧ d = [')'] then two style b c
    else general
  | _ => general

/-- `test` and `[`: judges a condition; `bracket` says that the words end in a closing bracket. -/
def run (style : Style) (bracket : Bool) (args : List Text) : Work Nat := do
  let words := if bracket then args.dropLast else args
  let judged : Judging Bool := do
    if bracket ∧ args.getLast? ≠ some [']'] then
      refuse <| match style with
        | .shell => "missing ]".toList
        | .largeShell => "missing \x60]'".toList
        | .program => "missing ']'".toList
    if style = .shell then judgeAll 4 false words else byNumber style words
  match ← judged.run with
  | .ok holds => return if holds then 0 else 1
  | .error message =>
    Work.complain message
    return 2

end Manpage.Utility.Test
