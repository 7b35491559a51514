/-
# Regular expressions

Regular expressions over texts of bytes, and where they match.  `ends` gives the places where a
match that begins at a place can end, those first that a search from left to right would come to
first: the first alternative before the second, and more rounds of a repetition before fewer.  A
match is the one that begins first, and of those the longest; its groups are settled by the same
order among the ways to come to its end.
-/
import Manpage.Text.Octets

namespace Manpage

/-- What a place in a text must be. -/
inductive Anchor
  | lineStart | lineEnd | textStart | textEnd | wordStart | wordEnd | wordEdge | notWordEdge
deriving DecidableEq, Repr

/-- A regular expression. -/
inductive Regex
  | empty
  /-- One character of some ranges, or one of none of them. -/
  | one (outside : Bool) (ranges : List (Char × Char))
  | anchor (a : Anchor)
  | both (first second : Regex)
  | either (first second : Regex)
  | star (body : Regex)
  /-- A group, by number. -/
  | group (n : Nat) (body : Regex)
  /-- What a group has matched. -/
  | again (n : Nat)
deriving DecidableEq, Repr

namespace Regex

/-- One character. -/
def char (c : Char) : Regex := .one false [(c, c)]

/-- Any character. -/
def any : Regex := .one true []

/-- The expressions one after another. -/
def sequence : List Regex → Regex
  | [] => .empty
  | [r] => r
  | r :: rest => .both r (sequence rest)

/-- An expression or nothing. -/
def optional (r : Regex) : Regex := .either r .empty

/-- An expression as often as a count says: at least `low` times, and at most `high` times if there
is a greatest number. -/
def times (r : Regex) (low : Nat) : (high : Option Nat) → Regex
  | none => sequence (List.replicate low r ++ [.star r])
  | some high =>
    let rec upTo : Nat → Regex
      | 0 => .empty
      | n + 1 => optional (.both r (upTo n))
    sequence (List.replicate low r ++ (if low < high then [upTo (high - low)] else []))

/-- Whether a character is in one of some ranges. -/
def inRanges (ranges : List (Char × Char)) (c : Char) : Bool :=
  ranges.any fun (low, high) => low.toNat ≤ c.toNat && c.toNat ≤ high.toNat

/-- How a text is searched. -/
structure Manner where
  ignoreCase : Bool
  /-- Whether a line ends at each line feed, and not only at the end of the text. -/
  manyLines : Bool
deriving DecidableEq, Repr

/-- A text that is searched. -/
structure Subject where
  chars : Array Char
  manner : Manner
  /-- Whether the text begins at the beginning of a line. -/
  atStart : Bool

namespace Subject

/-- A letter, a digit or an underscore. -/
def isWord (c : Char) : Bool := c.isAlphanum || c == '_'

/-- Whether a place is what an anchor asks for. -/
def holds (s : Subject) (p : Nat) (a : Anchor) : Bool :=
  let before := if p = 0 then none else s.chars[p - 1]?
  let after := s.chars[p]?
  let wordBefore := before.any isWord
  let wordAfter := after.any isWord
  match a with
  | .textStart => p == 0 && s.atStart
  | .textEnd => p == s.chars.size
  | .lineStart => (p == 0 && s.atStart) || (s.manner.manyLines && before == some '\n')
  | .lineEnd => p == s.chars.size || (s.manner.manyLines && after == some '\n')
  | .wordStart => !wordBefore && wordAfter
  | .wordEnd => wordBefore && !wordAfter
  | .wordEdge => wordBefore != wordAfter
  | .notWordEdge => wordBefore == wordAfter

/-- Whether the character at a place is one that is asked for. -/
def fits (s : Subject) (outside : Bool) (ranges : List (Char × Char)) (p : Nat) : Bool :=
  match s.chars[p]? with
  | none => false
  | some c =>
    let found := inRanges ranges c
      || (s.manner.ignoreCase && (inRanges ranges c.toLower || inRanges ranges c.toUpper))
    found != outside

end Subject

/-! ## 1. Where a match can end -/

/-- What the groups have matched. -/
abbrev Groups := List (Nat × Nat × Nat)

/-- Leaves out what has come before. -/
def distinct (places : List Nat) : List Nat :=
  match places with
  | [] => []
  | [p] => [p]
  | places => (places.foldl (fun kept p => if kept.contains p then kept else p :: kept) []).reverse

/-- How many characters from a place on are asked for. -/
def runLength (s : Subject) (outside : Bool) (ranges : List (Char × Char)) : (fuel : Nat) → Nat → Nat
  | 0, _ => 0
  | fuel + 1, p =>
    if s.fits outside ranges p then runLength s outside ranges fuel (p + 1) + 1 else 0

/-- The places that rounds of a step lead to, more rounds first. -/
def rounds (step : Nat → List Nat) : (fuel : Nat) → Nat → List Nat
  | 0, p => [p]
  | fuel + 1, p =>
    distinct (((step p).filter (p < ·)).flatMap (rounds step fuel) ++ [p])

/-- The places where a match from a place on can end. -/
def ends (s : Subject) (groups : Groups) : Regex → Nat → List Nat
  | .empty, p => [p]
  | .one outside ranges, p => if s.fits outside ranges p then [p + 1] else []
  | .anchor a, p => if s.holds p a then [p] else []
  | .both first second, p => distinct ((ends s groups first p).flatMap (ends s groups second))
  | .either first second, p => distinct (ends s groups first p ++ ends s groups second p)
  | .star (.one outside ranges), p =>
    let n := runLength s outside ranges (s.chars.size + 1 - p) p
    (List.range (n + 1)).reverse.map (p + ·)
  | .star body, p => rounds (ends s groups body) (s.chars.size + 1 - p) p
  | .group _ body, p => ends s groups body p
  | .again n, p =>
    match groups.find? (·.1 == n) with
    | none => []
    | some (_, first, last) =>
      let size := last - first
      let same := (List.range size).all fun i =>
        match s.chars[first + i]?, s.chars[p + i]? with
        | some a, some b => a == b || (s.manner.ignoreCase && a.toLower == b.toLower)
        | _, _ => false
      if same then [p + size] else []

/-! ## 2. What the groups match -/

/-- The groups of a match from one place to another, on top of those that are known: of the ways to
match, the one that comes first. -/
def settle (s : Subject) : Regex → (first last : Nat) → Groups → Groups
  | .both a b, first, last, groups =>
    let fitsRest (q : Nat) : Bool := (ends s (settle s a first q groups) b q).contains last
    match (ends s groups a first).find? fitsRest with
    | none => groups
    | some q => settle s b q last (settle s a first q groups)
  | .either a b, first, last, groups =>
    if (ends s groups a first).contains last then settle s a first last groups
    else settle s b first last groups
  | .star body, first, last, groups =>
    let rec go : (fuel : Nat) → Nat → Groups → Groups
      | 0, _, groups => groups
      | fuel + 1, p, groups =>
        if p = last then groups
        else
          let step := (ends s groups body p).filter (p < ·)
          match step.find? fun q => (ends s groups (.star body) q).contains last with
          | none => groups
          | some q => go fuel q (settle s body p q groups)
    go (last + 1 - first) first groups
  | .group n body, first, last, groups =>
    let inner := settle s body first last groups
    (n, first, last) :: inner.filter (·.1 != n)
  | _, _, _, groups => groups

/-- How many groups there are in an expression. -/
def groupCount : Regex → Nat
  | .both a b | .either a b => max a.groupCount b.groupCount
  | .star r => r.groupCount
  | .group n r => max n r.groupCount
  | _ => 0

/-- Whether an expression asks for what a group has matched. -/
def looksBack : Regex → Bool
  | .both a b | .either a b => a.looksBack || b.looksBack
  | .star r | .group _ r => r.looksBack
  | .again _ => true
  | _ => false

/-- The ways to match from a place on, each with the groups it has matched: the way of expressions
that look back. -/
def ways (s : Subject) : Regex → Nat → Groups → List (Nat × Groups)
  | .both a b, p, groups => (ways s a p groups).flatMap fun (q, groups) => ways s b q groups
  | .either a b, p, groups => ways s a p groups ++ ways s b p groups
  | .star body, p, groups =>
    let rec go : (fuel : Nat) → Nat → Groups → List (Nat × Groups)
      | 0, p, groups => [(p, groups)]
      | fuel + 1, p, groups =>
        (((ways s body p groups).filter (p < ·.1)).flatMap fun (q, groups) => go fuel q groups)
          ++ [(p, groups)]
    go (s.chars.size + 1 - p) p groups
  | .group n body, p, groups =>
    (ways s body p groups).map fun (q, inner) => (q, (n, p, q) :: inner.filter (·.1 != n))
  | r, p, groups => (ends s groups r p).map (·, groups)

/-! ## 3. Searching -/

/-- A match: where it begins and ends, and its groups. -/
structure Match where
  first : Nat
  last : Nat
  groups : Groups
deriving Repr

/-- The longest match that begins at a place. -/
def matchAt (r : Regex) (s : Subject) (p : Nat) : Option Match :=
  if r.looksBack then
    match ways s r p [] with
    | [] => none
    | way :: more =>
      let best := more.foldl (fun best w => if best.1 < w.1 then w else best) way
      some ⟨p, best.1, best.2⟩
  else
    match ends s [] r p with
    | [] => none
    | q :: more =>
      let last := more.foldl max q
      some ⟨p, last, settle s r p last []⟩

/-- The first match that begins at a place or after it. -/
def find (r : Regex) (s : Subject) (start : Nat) : Option Match :=
  (List.range (s.chars.size + 1 - start)).findSome? fun i => matchAt r s (start + i)

/-- Whether there is a match. -/
def occurs (r : Regex) (s : Subject) : Bool := (find r s 0).isSome

/-- The text of a group. -/
def Match.group (m : Match) (s : Subject) (n : Nat) : Text :=
  if n = 0 then (s.chars.extract m.first m.last).toList
  else
    match m.groups.find? (·.1 == n) with
    | none => []
    | some (_, first, last) => (s.chars.extract first last).toList

end Regex

end Manpage
