/-
# Patterns for the values of fields

A rule of a log filter may ask for a value of a field by a regular expression.  Here is which texts
are regular expressions: alternatives of atoms with repetitions, groups with names and flags,
classes in brackets, and escapes.  A counted repetition cannot be written, since a brace ends the
field; word boundaries and back references are refused.

The readers take what they know off the text and give the rest, or `none` where the text is
malformed.  `fuel` bounds the number of steps, each of which takes a character.
-/
import Manpage.Text.Basic

namespace Manpage.ValuePattern

/-! ## 1. Escapes -/

/-- What an escape or a member of a class is. -/
inductive Item
  /-- One character. -/
  | character (c : Char)
  /-- A class of characters. -/
  | several
  /-- A place between characters. -/
  | position
deriving DecidableEq, Repr

/-- The value of a hexadecimal digit. -/
def hexDigit? (c : Char) : Option Nat :=
  if '0' ≤ c ∧ c ≤ '9' then some (c.toNat - 48)
  else if 'a' ≤ c ∧ c ≤ 'f' then some (c.toNat - 87)
  else if 'A' ≤ c ∧ c ≤ 'F' then some (c.toNat - 55)
  else none

/-- The character whose number stands in `n` hexadecimal digits. -/
def numbered? (n : Nat) (s : Text) : Option (Item × Text) := do
  let digits := s.take n
  if digits.length < n then none
  else
    let value := (← digits.mapM hexDigit?).foldl (fun v d => v * 16 + d) 0
    if value.isValidChar then some (.character (Char.ofNat value), s.drop n) else none

/-- Takes an escape after its backslash. -/
def escape? : Text → Option (Item × Text)
  | [] => none
  | 'p' :: c :: s | 'P' :: c :: s => if c ∈ "CLMNPSZ".toList then some (.several, s) else none
  | 'x' :: s => numbered? 2 s
  | 'u' :: s => numbered? 4 s
  | 'U' :: s => numbered? 8 s
  | c :: s =>
    if c ∈ "dswDSW".toList then some (.several, s)
    else if c = 'a' then some (.character '\x07', s)
    else if c = 'f' then some (.character '\x0c', s)
    else if c = 't' then some (.character '\t', s)
    else if c = 'n' then some (.character '\n', s)
    else if c = 'r' then some (.character '\r', s)
    else if c = 'v' then some (.character '\x0b', s)
    else if c = 'A' ∨ c = 'z' then some (.position, s)
    else if c.isAlphanum ∨ c = '<' ∨ c = '>' ∨ 0x80 ≤ c.toNat then none
    else some (.character c, s)

/-! ## 2. Classes -/

/-- The names of the classes of ASCII characters. -/
def asciiClasses : List Text :=
  ["alnum", "alpha", "ascii", "blank", "cntrl", "digit", "graph", "lower", "print", "punct",
   "space", "upper", "word", "xdigit"].map String.toList

/-- Takes a named class after its opening bracket. -/
def namedClass? : Text → Option Text
  | ':' :: s =>
    let s := if s.head? = some '^' then s.drop 1 else s
    let name := s.takeWhile Char.isAlpha
    match s.drop name.length with
    | ':' :: ']' :: rest => if name ∈ asciiClasses then some rest else none
    | _ => none
  | _ => none

/-- Takes one member of a class that is no class in brackets itself. -/
def member? : Text → Option (Item × Text)
  | [] => none
  | '\\' :: s => (escape? s).filter fun found => found.1 != .position
  | c :: s => some (.character c, s)

/-- Takes the beginning of a class: the mark that turns it round, and the hyphens and the closing
bracket that stand for themselves. -/
def classStart (s : Text) : Text :=
  let s := if s.head? = some '^' then s.drop 1 else s
  let kept := s.dropWhile (· == '-')
  if kept.length < s.length then kept
  else if s.head? = some ']' then s.drop 1 else s

/-- Takes the members of a class up to its closing bracket, inside `depth` other classes. -/
def class? : (fuel : Nat) → (depth : Nat) → Text → Option Text
  | 0, _, _ => none
  | _ + 1, _, [] => none
  | _ + 1, 0, ']' :: s => some s
  | fuel + 1, depth + 1, ']' :: s => class? fuel depth s
  | fuel + 1, depth, '[' :: s =>
    match namedClass? s with
    | some rest => class? fuel depth rest
    | none => class? fuel (depth + 1) (classStart s)
  | fuel + 1, depth, '&' :: '&' :: s => class? fuel depth s
  | fuel + 1, depth, '-' :: '-' :: s => class? fuel depth s
  | fuel + 1, depth, '~' :: '~' :: s => class? fuel depth s
  | fuel + 1, depth, s =>
    match member? s with
    | none => none
    | some (first, rest) =>
      match rest with
      | '-' :: ']' :: _ | '-' :: '-' :: _ => class? fuel depth rest
      | '-' :: after =>
        match first, member? after with
        | .character low, some (.character high, rest) =>
          if low ≤ high then class? fuel depth rest else none
        | _, _ => none
      | _ => class? fuel depth rest

/-! ## 3. Groups -/

/-- The flags of a group: each at most once, a hyphen at most once and not at the end. -/
def flags? : (seen : List Char) → (last : Option Char) → Text → Option (Char × Text)
  | _, _, [] => none
  | seen, last, c :: s =>
    if c = ':' ∨ c = ')' then
      if last = some '-' ∨ (c = ')' ∧ last = none) then none else some (c, s)
    else if c ∈ "imsUuxR-".toList ∧ c ∉ seen then flags? (c :: seen) (some c) s
    else none

/-- A name of a group, up to its closing mark. -/
def groupName? (s : Text) : Option (Text × Text) :=
  let name := s.takeWhile (· ≠ '>')
  match name, s.drop name.length with
  | first :: more, '>' :: rest =>
    if (first.isAlpha || first == '_')
        && more.all (fun c => c.isAlphanum || c ∈ ['_', '.', '[', ']']) then
      some (name, rest)
    else none
  | _, _ => none

/-- What begins with a parenthesis. -/
inductive Opening
  | group
  | named (name : Text)
  /-- Flags for what follows. -/
  | setting

/-- Takes the beginning of a group after its parenthesis. -/
def opening? : Text → Option (Opening × Text)
  | '?' :: 'P' :: '<' :: s => (groupName? s).map fun (name, rest) => (.named name, rest)
  | '?' :: '<' :: s => (groupName? s).map fun (name, rest) => (.named name, rest)
  | '?' :: s => (flags? [] none s).map fun (c, rest) => (if c = ')' then .setting else .group, rest)
  | s => some (.group, s)

/-! ## 4. Expressions -/

/-- Whether an expression is well formed: `depth` groups are open, the groups in `names` have been
begun, and `operand` says that a repetition may follow. -/
def wellFormed : (fuel : Nat) → (depth : Nat) → (names : List Text) → (operand : Bool) → Text → Bool
  | 0, _, _, _, _ => false
  | _ + 1, depth, _, _, [] => depth == 0
  | fuel + 1, depth, names, operand, c :: s =>
    if c = '*' ∨ c = '+' ∨ c = '?' then
      operand && wellFormed fuel depth names true (if s.head? = some '?' then s.drop 1 else s)
    else if c = '\x7b' then false
    else if c = '|' then wellFormed fuel depth names false s
    else if c = '(' then
      match opening? s with
      | none => false
      | some (.setting, rest) => wellFormed fuel depth names false rest
      | some (.group, rest) => wellFormed fuel (depth + 1) names false rest
      | some (.named name, rest) =>
        name ∉ names && wellFormed fuel (depth + 1) (name :: names) false rest
    else if c = ')' then 0 < depth && wellFormed fuel (depth - 1) names true s
    else if c = '[' then
      match class? (s.length + 1) 0 (classStart s) with
      | none => false
      | some rest => wellFormed fuel depth names true rest
    else if c = '\\' then
      match escape? s with
      | none => false
      | some (_, rest) => wellFormed fuel depth names true rest
    else wellFormed fuel depth names true s

/-- A number with a sign in front, which no expression could begin with. -/
def isSignedNumber (s : Text) : Bool :=
  match s with
  | '+' :: s =>
    let name := s.map Char.toLower
    let whole := s.takeWhile Char.isDigit
    let rest := s.dropWhile Char.isDigit
    let places := match rest with
      | '.' :: r => r.takeWhile Char.isDigit
      | _ => []
    let rest := match rest with
      | '.' :: r => r.dropWhile Char.isDigit
      | r => r
    let power := match rest with
      | 'e' :: r | 'E' :: r =>
        let r := match r with
          | '+' :: r | '-' :: r => r
          | r => r
        r ≠ [] && r.all Char.isDigit
      | r => r.isEmpty
    name = "inf".toList || name = "infinity".toList || name = "nan".toList
      || ((whole ≠ [] || places ≠ []) && power)
  | _ => false

/-- Whether a text can stand for the value of a field. -/
def valid (s : Text) : Bool := isSignedNumber s || wellFormed (s.length + 1) 0 [] false s

end Manpage.ValuePattern
