/-
# Patterns of the shell

Patterns for file names, selections and the ends of values: a star stands for any text, a question
mark for any character, and brackets for one character of a class.  Quoted characters stand for
themselves, as does a character after a backslash.  The large shell can be told to read groups too:
alternatives between parentheses, behind a character that says how many of them may follow one another.
-/
import Manpage.Regex.Reader

namespace Manpage.Shell

/-- A character of a word, and whether it is quoted. -/
abbrev Marked := Char × Bool

/-- One item of a pattern. -/
inductive PatternItem
  | char (c : Char)
  | one
  | many
  /-- One character inside, or outside, a class of closed ranges. -/
  | among (outside : Bool) (ranges : List (Char × Char))
  /-- Alternatives, with the character before their parenthesis. -/
  | group (kind : Char) (choices : List (List PatternItem))

/-- A pattern. -/
abbrev Pattern := List PatternItem

namespace Pattern

/-! ## 1. Reading -/

/-- Takes the name of a class up to its closing mark. -/
def takeClassName (mark : Char) : List Marked → Option (Text × List Marked)
  | (c, false) :: (']', false) :: rest =>
    if c = mark then some ([], rest)
    else (takeClassName mark ((']', false) :: rest)).map fun (s, more) => (c :: s, more)
  | (c, _) :: rest => (takeClassName mark rest).map fun (s, more) => (c :: s, more)
  | [] => none

/-- Takes one character of a class. -/
def takeMember : List Marked → Option (Char × List Marked)
  | ('\\', false) :: (c, _) :: rest => some (c, rest)
  | (c, _) :: rest => some (c, rest)
  | [] => none

/-- Reads the ranges of a class up to its closing bracket, which does not close it when it comes
first. -/
def readClass : (fuel : Nat) → (first : Bool) → List Marked →
    Option (List (Char × Char) × List Marked)
  | 0, _, _ => none
  | _, _, [] => none
  | fuel + 1, first, (c, q) :: rest =>
    if c = ']' ∧ q = false ∧ first = false then some ([], rest)
    else
      let named : Option (List (Char × Char) × List Marked) :=
        match c, q, rest with
        | '[', false, (mark, false) :: inner =>
          if mark = ':' then
            (takeClassName ':' inner).bind fun (name, more) =>
              (Regex.classRanges? name).map fun ranges => (ranges, more)
          else if mark = '=' ∨ mark = '.' then
            match takeClassName mark inner with
            | some ([d], more) => some ([(d, d)], more)
            | _ => none
          else none
        | _, _, _ => none
      match named with
      | some (ranges, more) =>
        (readClass fuel false more).map fun (others, after) => (ranges ++ others, after)
      | none =>
        match takeMember ((c, q) :: rest) with
        | none => none
        | some (low, more) =>
          let alone : Option (List (Char × Char) × List Marked) :=
            (readClass fuel false more).map fun (others, after) => ((low, low) :: others, after)
          match more with
          | ('-', false) :: (d, dq) :: after =>
            if d = ']' ∧ dq = false then alone
            else
              match takeMember ((d, dq) :: after) with
              | some (high, rest) =>
                (readClass fuel false rest).map fun (others, after) => ((low, high) :: others, after)
              | none => none
          | _ => alone

/-- What a pattern may hold besides what every pattern may. -/
structure Rules where
  /-- A caret may exclude a class like an exclamation mark. -/
  caret : Bool
  /-- There may be groups. -/
  groups : Bool
  /-- Upper and lower case are the same. -/
  folds : Bool
deriving DecidableEq, Repr

/-- The characters that may stand before the parenthesis of a group. -/
def groupKinds : List Char := ['?', '*', '+', '@', '!']

/-- Cuts the inside of a group at its bars, up to the parenthesis that closes it. -/
def groupParts : (depth : Nat) → (current : List Marked) → List Marked →
    Option (List (List Marked) × List Marked)
  | _, _, [] => none
  | depth, current, (c, quoted) :: rest =>
    if quoted then groupParts depth ((c, quoted) :: current) rest
    else if c = '(' then groupParts (depth + 1) ((c, quoted) :: current) rest
    else if c = ')' then
      if depth = 0 then some ([current.reverse], rest)
      else groupParts (depth - 1) ((c, quoted) :: current) rest
    else if c = '|' ∧ depth = 0 then
      (groupParts 0 [] rest).map fun (parts, after) => (current.reverse :: parts, after)
    else groupParts depth ((c, quoted) :: current) rest

/-- The inside of a group that begins behind its first character, cut at its bars. -/
def group? (rules : Rules) (kind : Char) (rest : List Marked) :
    Option (List (List Marked) × List Marked) :=
  match rest with
  | ('(', false) :: inside =>
    if rules.groups && groupKinds.contains kind then groupParts 0 [] inside else none
  | _ => none

/-- Ranges with those of the same letters in the other case. -/
def folded (ranges : List (Char × Char)) : List (Char × Char) :=
  ranges.flatMap fun (a, b) =>
    [(a, b), (a.toLower, b.toLower), (a.toUpper, b.toUpper)].eraseDups

/-- The item that a character is which stands for itself. -/
def itself (rules : Rules) (c : Char) : PatternItem :=
  if rules.folds && c.isAlpha then .among false (folded [(c, c)]) else .char c

/-- Reads a pattern; `fuel` is the length of the word. -/
def read (rules : Rules) : (fuel : Nat) → List Marked → Pattern
  | 0, _ => []
  | _, [] => []
  | fuel + 1, (c, quoted) :: rest =>
    if quoted then itself rules c :: read rules fuel rest
    else
      match group? rules c rest with
      | some (parts, after) => .group c (parts.map (read rules fuel)) :: read rules fuel after
      | none =>
        if c = '*' then .many :: read rules fuel rest
        else if c = '?' then .one :: read rules fuel rest
        else if c = '\\' then
          match rest with
          | (d, _) :: more => itself rules d :: read rules fuel more
          | [] => [itself rules c]
        else if c = '[' then
          let (outside, body) : Bool × List Marked :=
            match rest with
            | ('!', false) :: body => (true, body)
            | ('^', false) :: body =>
              if rules.caret then (true, body) else (false, ('^', false) :: body)
            | body => (false, body)
          match readClass (body.length + 1) true body with
          | some (ranges, after) =>
            .among outside (if rules.folds then folded ranges else ranges) :: read rules fuel after
          | none => itself rules c :: read rules fuel rest
        else itself rules c :: read rules fuel rest

/-- The pattern that a word is. -/
def ofMarked (rules : Rules) (word : List Marked) : Pattern := read rules word.length word

/-- Whether a word has an unquoted character that makes it a pattern. -/
def isPattern (rules : Rules) : List Marked → Bool
  | [] => false
  | (c, quoted) :: rest =>
    (!quoted && (c == '*' || c == '?' || c == '[' || (group? rules c rest).isSome))
      || isPattern rules rest

/-! ## 2. Matching -/

/-- All ends of a text, the text itself first. -/
def ends : Text → List Text
  | [] => [[]]
  | c :: s => (c :: s) :: ends s

/-- All ways to cut a text in two, the empty beginning first. -/
def cuts (s : Text) : List (Text × Text) := (List.range (s.length + 1)).map fun n => (s.take n, s.drop n)

/-- Whether a text matches a pattern; `fuel` is more than the weight of the pattern and the length of
the text together. -/
def fitsWithin : (fuel : Nat) → Pattern → Text → Bool
  | 0, _, _ => false
  | _ + 1, [], s => s.isEmpty
  | fuel + 1, item :: rest, s =>
    match item, s with
    | .char c, d :: s => c == d && fitsWithin fuel rest s
    | .one, _ :: s => fitsWithin fuel rest s
    | .among outside ranges, d :: s => (Regex.inRanges ranges d) != outside && fitsWithin fuel rest s
    | .many, s =>
      match rest with
      | [] => true
      | _ => (ends s).any (fitsWithin fuel rest)
    | .group kind choices, s =>
      let chosen (t : Text) : Bool := choices.any fun p => fitsWithin fuel p t
      let once : Bool := (cuts s).any fun (a, b) => chosen a && fitsWithin fuel rest b
      -- a further round takes at least one character
      let more : Bool := (cuts s).any fun (a, b) =>
        !a.isEmpty && chosen a && fitsWithin fuel (.group '*' choices :: rest) b
      match kind with
      | '@' => once
      | '?' => fitsWithin fuel rest s || once
      | '+' => once || more
      | '!' => (cuts s).any fun (a, b) => !chosen a && fitsWithin fuel rest b
      | _ => fitsWithin fuel rest s || more
    | _, [] => false

mutual

/-- How many steps a pattern may need besides those for the text. -/
def weight : List PatternItem → Nat
  | [] => 1
  | item :: rest => itemWeight item + weight rest

/-- What an item adds to the weight of its pattern. -/
def itemWeight : PatternItem → Nat
  | .group _ choices => choicesWeight choices + 1
  | _ => 1

/-- The weight of all alternatives of a group together. -/
def choicesWeight : List (List PatternItem) → Nat
  | [] => 0
  | p :: rest => weight p + choicesWeight rest

end

/-- Whether a text matches a pattern. -/
def fits (p : Pattern) (s : Text) : Bool := fitsWithin (weight p + s.length + 1) p s

/-- The size of a match at one end of a text, the shortest or the longest. -/
def matchSize? (pattern : Pattern) (atEnd longest : Bool) (s : Text) : Option Nat :=
  let cuts := List.range (s.length + 1)
  let sizes := if longest then cuts.reverse else cuts
  sizes.find? fun n => fits pattern (if atEnd then s.drop (s.length - n) else s.take n)

/-- A text without a match of a pattern at one end, the shortest or the longest. -/
def strip (pattern : Pattern) (atEnd longest : Bool) (s : Text) : Text :=
  match matchSize? pattern atEnd longest s with
  | none => s
  | some n => if atEnd then s.take (s.length - n) else s.drop n

/-- A text with the first match of a pattern replaced, or every one; the longest match counts.
`fuel` is the length of the text. -/
def replace (pattern : Pattern) (replacement : Text → Text) (all : Bool) : (fuel : Nat) → Text → Text
  | 0, s => s
  | fuel + 1, s =>
    match s with
    | [] => []
    | c :: rest =>
      match matchSize? pattern false true s with
      | some 0 | none => c :: replace pattern replacement all fuel rest
      | some n =>
        let found := replacement (s.take n)
        if all then found ++ replace pattern replacement all fuel (s.drop n) else found ++ s.drop n

end Pattern

end Manpage.Shell
