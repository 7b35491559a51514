/-
# Reading regular expressions

The two written forms of regular expressions.  In the basic form groups, alternatives and counts are
written with backslashes, and a star that has nothing before it stands for itself; in the extended
form they are written without.  Both forms know the named classes in brackets and the escapes for
words and their edges.

The reader goes once through the text and keeps the groups that are open on a stack.
-/
import Manpage.Regex.Basic

namespace Manpage.Regex

/-- What differs between the written forms. -/
structure Form where
  extended : Bool
  /-- Whether what makes no sense as an operator stands for itself. -/
  lenient : Bool
  /-- Whether a backslash has its meaning inside brackets too, and escapes name controls. -/
  escapes : Bool
deriving DecidableEq, Repr

namespace Form

/-- The basic form. -/
def basic : Form := ⟨false, false, false⟩

/-- The extended form. -/
def extendedForm : Form := ⟨true, false, false⟩

end Form

/-! ## 1. Brackets -/

/-- The ranges of a named class. -/
def classRanges? (name : Text) : Option (List (Char × Char)) :=
  (List.lookup (String.ofList name)
    [("alpha", [('a', 'z'), ('A', 'Z')]), ("digit", [('0', '9')]), ("upper", [('A', 'Z')]),
     ("lower", [('a', 'z')]), ("alnum", [('a', 'z'), ('A', 'Z'), ('0', '9')]),
     ("space", [('\t', '\r'), (' ', ' ')]), ("blank", [(' ', ' '), ('\t', '\t')]),
     ("punct", [('!', '/'), (':', '@'), ('[', '\x60'), ('\x7b', '\x7e')]),
     ("print", [(' ', '\x7e')]), ("graph", [('!', '\x7e')]),
     ("cntrl", [('\x00', '\x1f'), ('\x7f', '\x7f')]),
     ("xdigit", [('0', '9'), ('a', 'f'), ('A', 'F')])])

/-- The character that an escape by letter stands for. -/
def control? (c : Char) : Option Char :=
  List.lookup c [('n', '\n'), ('t', '\t'), ('r', '\r'), ('f', '\x0c'), ('v', '\x0b'), ('a', '\x07'),
    ('b', '\x08')]

/-- What is wrong with an unfinished bracket. -/
def openBracket : Text := "Unmatched [, [^, [:, [., or [=".toList

/-- Takes the text up to a closing mark of two characters. -/
def takeUntilPair (a b : Char) : Text → Option (Text × Text)
  | [] => none
  | c :: d :: rest =>
    if c = a ∧ d = b then some ([], rest)
    else (takeUntilPair a b (d :: rest)).map fun (s, more) => (c :: s, more)
  | [_] => none

/-- Takes one end of a range inside brackets. -/
def bracketChar? (form : Form) : Text → Option (Char × Text)
  | '[' :: '.' :: rest =>
    match takeUntilPair '.' ']' rest with
    | some ([c], rest) => some (c, rest)
    | _ => none
  | '\\' :: c :: rest =>
    if form.escapes then some ((control? c).getD c, rest) else some ('\\', c :: rest)
  | c :: rest => some (c, rest)
  | [] => none

/-- Takes the members of a bracket up to the one that closes it; `first` says that a closing bracket
stands for itself. -/
def bracketMembers (form : Form) : (fuel : Nat) → (first : Bool) → Text →
    Except Text (List (Char × Char) × Text)
  | 0, _, _ => .error openBracket
  | fuel + 1, first, s =>
    match s with
    | [] => .error (if first then "Invalid regular expression".toList else openBracket)
    | ']' :: rest =>
      if first then more fuel s else .ok ([], rest)
    | '[' :: ':' :: rest =>
      match takeUntilPair ':' ']' rest with
      | none => .error openBracket
      | some (name, rest) =>
        match classRanges? name with
        | none => .error "Invalid character class name".toList
        | some ranges => do
          let (others, rest) ← bracketMembers form fuel false rest
          return (ranges ++ others, rest)
    | '[' :: '=' :: rest =>
      match takeUntilPair '=' ']' rest with
      | some ([c], rest) => do
        let (others, rest) ← bracketMembers form fuel false rest
        return ((c, c) :: others, rest)
      | _ => .error openBracket
    | _ => more fuel s
where
  /-- Takes a character or a range. -/
  more (fuel : Nat) (s : Text) : Except Text (List (Char × Char) × Text) :=
    match bracketChar? form s with
    | none => .error openBracket
    | some (low, rest) =>
      match rest with
      | '-' :: ']' :: _ => do
        let (others, rest) ← bracketMembers form fuel false rest
        return ((low, low) :: others, rest)
      | '-' :: rest' =>
        match bracketChar? form rest' with
        | none => .error openBracket
        | some (high, rest'') =>
          if low.toNat ≤ high.toNat then do
            let (others, rest) ← bracketMembers form fuel false rest''
            return ((low, high) :: others, rest)
          else if form.escapes then do
            let (others, rest) ← bracketMembers form fuel false rest''
            return ((low, low) :: ('-', '-') :: (high, high) :: others, rest)
          else .error "Invalid range end".toList
      | _ => do
        let (others, rest) ← bracketMembers form fuel false rest
        return ((low, low) :: others, rest)

/-- Takes a bracket after its opening one. -/
def bracket (form : Form) (s : Text) : Except Text (Regex × Text) := do
  let outside := s.head? == some '^'
  let s := if outside then s.drop 1 else s
  let (ranges, rest) ← bracketMembers form (s.length + 1) true s
  return (.one outside ranges, rest)

/-! ## 2. Counts -/

/-- Takes a number. -/
def takeNumber (s : Text) : Option Nat × Text :=
  let digits := s.takeWhile Char.isDigit
  (if digits.isEmpty then none else some (digits.foldl (fun n c => n * 10 + (c.toNat - 48)) 0),
    s.drop digits.length)

/-- The greatest count. -/
def countLimit : Nat := 32767

/-- Takes a count after its opening brace, up to the closing one.  A fault says whether what was found
has the form of a count. -/
def interval (form : Form) (s : Text) : Except (Bool × Text) ((Nat × Option Nat) × Text) :=
  let (low, rest) := takeNumber s
  let (high, comma, rest) := match rest with
    | ',' :: rest =>
      let (high, rest) := takeNumber rest
      (high, true, rest)
    | rest => (low, false, rest)
  let close : Text := if form.extended then ['\x7d'] else ['\\', '\x7d']
  let bad : Text := "Invalid content of \\\x7b\\\x7d".toList
  match close.isPrefixOf? rest with
  | none =>
    .error (false, if rest.isEmpty then "Unmatched \\\x7b".toList else bad)
  | some rest =>
    if low = none ∧ comma = false then .error (false, bad)
    else
      let low := low.getD 0
      match high with
      | some h =>
        if h < low then .error (true, bad)
        else if countLimit < h then .error (true, "Regular expression too big".toList)
        else .ok ((low, some h), rest)
      | none =>
        if countLimit < low then .error (true, "Regular expression too big".toList)
        else .ok ((low, none), rest)

/-! ## 3. The stack of groups -/

/-- A group that is open: its number, the alternatives before the one at work, and the members of
that one, the last first. -/
structure Frame where
  number : Nat
  alternatives : List Regex
  members : List Regex
deriving Repr

namespace Frame

/-- The expression of a group. -/
def close (f : Frame) : Regex :=
  let last := sequence f.members.reverse
  match f.alternatives.reverse with
  | [] => last
  | first :: more => (more ++ [last]).foldl Regex.either first

/-- Adds a member. -/
def add (f : Frame) (r : Regex) : Frame := { f with members := r :: f.members }

end Frame

/-- What comes next in a written expression. -/
inductive Token
  | atom (r : Regex)
  | opening
  | closing
  | bar
  | count (low : Nat) (high : Option Nat)
  /-- The group that is to match again. -/
  | again (n : Nat)
  /-- A character that is a count only where something can be counted. -/
  | star
deriving Repr

/-- The classes of word characters and of blanks. -/
def wordRanges : List (Char × Char) := [('a', 'z'), ('A', 'Z'), ('0', '9'), ('_', '_')]

/-- The class of blanks. -/
def blankRanges : List (Char × Char) := [('\t', '\r'), (' ', ' ')]

/-- Takes an escape after its backslash. -/
def escapeToken (form : Form) (c : Char) (rest : Text) : Except Text (Token × Text) :=
  let ok (t : Token) : Except Text (Token × Text) := .ok (t, rest)
  if c = '(' ∨ c = ')' ∨ c = '|' ∨ c = '+' ∨ c = '?' then
    if form.extended then ok (.atom (char c))
    else if c = '(' then ok .opening
    else if c = ')' then ok .closing
    else if c = '|' then ok .bar
    else if c = '+' then ok (.count 1 none)
    else ok (.count 0 (some 1))
  else if c = '\x7b' then
    if form.extended then ok (.atom (char c))
    else
      match interval form rest with
      | .ok ((low, high), rest) => .ok (.count low high, rest)
      | .error (_, fault) => .error fault
  else if '1' ≤ c ∧ c ≤ '9' ∧ form.escapes = false then ok (.again (c.toNat - 48))
  else if form.escapes then
    match control? c with
    | some meant => ok (.atom (char meant))
    | none => ok (.atom (char c))
  else if c = 'w' then ok (.atom (.one false wordRanges))
  else if c = 'W' then ok (.atom (.one true wordRanges))
  else if c = 's' then ok (.atom (.one false blankRanges))
  else if c = 'S' then ok (.atom (.one true blankRanges))
  else if c = '<' then ok (.atom (.anchor .wordStart))
  else if c = '>' then ok (.atom (.anchor .wordEnd))
  else if c = 'b' then ok (.atom (.anchor .wordEdge))
  else if c = 'B' then ok (.atom (.anchor .notWordEdge))
  else if c = '\x60' then ok (.atom (.anchor .textStart))
  else if c = '\'' then ok (.atom (.anchor .textEnd))
  else ok (.atom (char c))

/-- Whether a dollar sign that is followed by a text is at the end of an expression. -/
def endsExpression (form : Form) (rest : Text) : Bool :=
  form.extended || rest.isEmpty || ("\\)".toList).isPrefixOf rest || ("\\|".toList).isPrefixOf rest

/-- Takes the next token; `begins` says that an alternative begins here. -/
def token (form : Form) (begins : Bool) (c : Char) (rest : Text) : Except Text (Token × Text) :=
  let ok (t : Token) : Except Text (Token × Text) := .ok (t, rest)
  if c = '\\' then
    match rest with
    | [] => .error "Trailing backslash".toList
    | d :: rest => escapeToken form d rest
  else if c = '[' then do
    let (r, rest) ← bracket form rest
    return (.atom r, rest)
  else if c = '.' then ok (.atom any)
  else if c = '^' then
    if form.extended || begins then ok (.atom (.anchor .lineStart)) else ok (.atom (char c))
  else if c = '$' then
    if endsExpression form rest then ok (.atom (.anchor .lineEnd)) else ok (.atom (char c))
  else if c = '*' then ok .star
  else if form.extended then
    if c = '(' then ok .opening
    else if c = ')' then ok .closing
    else if c = '|' then ok .bar
    else if c = '+' then ok (.count 1 none)
    else if c = '?' then ok (.count 0 (some 1))
    else if c = '\x7b' then
      match interval form rest with
      | .ok ((low, high), rest) => .ok (.count low high, rest)
      | .error (isCount, fault) =>
        if !isCount && (form.lenient || form.escapes) then ok (.atom (char c)) else .error fault
    else ok (.atom (char c))
  else ok (.atom (char c))

/-- Reads an expression on a stack of open groups, the innermost first; `opened` groups have been
begun. -/
def readOn (form : Form) : (fuel : Nat) → (opened : Nat) → Frame → List Frame → Text →
    Except Text Regex
  | 0, _, _, _, _ => .error "Regular expression too big".toList
  | _ + 1, _, top, below, [] =>
    match below with
    | [] => .ok top.close
    | _ => .error "Unmatched ( or \\(".toList
  | fuel + 1, opened, top, below, c :: rest => do
    let begins := top.members.isEmpty
    let (t, rest') ← token form begins c rest
    match t with
    | .atom r => readOn form fuel opened (top.add r) below rest'
    | .opening => readOn form fuel (opened + 1) ⟨opened + 1, [], []⟩ (top :: below) rest'
    | .closing =>
      match below with
      | [] =>
        if form.lenient || form.escapes then readOn form fuel opened (top.add (char ')')) below rest'
        else .error "Unmatched ) or \\)".toList
      | outer :: below =>
        readOn form fuel opened (outer.add (.group top.number top.close)) below rest'
    | .bar =>
      let r := sequence top.members.reverse
      readOn form fuel opened { top with alternatives := r :: top.alternatives, members := [] }
        below rest'
    | .again n =>
      let isOpen := (top :: below).any (·.number == n)
      if opened < n ∨ (isOpen ∧ n ≠ 0) then .error "Invalid back reference".toList
      else readOn form fuel opened (top.add (.again n)) below rest'
    | .star => repeated fuel opened top below c rest' 0 none
    | .count low high => repeated fuel opened top below c rest' low high
where
  /-- Repeats the last member, if there is one. -/
  repeated (fuel opened : Nat) (top : Frame) (below : List Frame) (c : Char) (rest : Text)
      (low : Nat) (high : Option Nat) : Except Text Regex :=
    match top.members with
    | [] =>
      if form.extended && !form.lenient then .error "Invalid preceding regular expression".toList
      else if form.extended then readOn form fuel opened top below rest
      else readOn form fuel opened (top.add (char c)) below rest
    | [.anchor .lineStart] =>
      if form.extended then readOn form fuel opened top below rest
      else readOn form fuel opened (top.add (char c)) below rest
    | last :: before =>
      let body := if low = 0 ∧ high = none then Regex.star last else times last low high
      readOn form fuel opened { top with members := body :: before } below rest

/-- Reads an expression. -/
def read (form : Form) (s : Text) : Except Text Regex :=
  readOn form (s.length + 1) 0 ⟨0, [], []⟩ [] s

end Manpage.Regex
