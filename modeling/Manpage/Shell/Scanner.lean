/-
# Reading tokens

Blanks and comments are read over.  Whether a word is a keyword, or an alias whose text stands in its
place, hangs on where it stands, so what is looked for is said each time.
-/
import Manpage.Shell.Words

namespace Manpage.Shell.Reading

/-! ## 1. Single tokens -/

/-- Reads over a comment, up to the end of its line. -/
def skipComment : Reading Unit := modify fun r => { r with rest := r.rest.dropWhile (· != '\n') }

/-- Leaves the text of the innermost alias; tells whether it ended with a blank. -/
def leaveAlias : Reading Bool := do
  let r ← get
  match r.expanding with
  | [] => return false
  | name :: outer =>
    set { r with expanding := outer }
    let text := (r.aliases.lookup name).getD []
    return text.getLast? = some ' ' || text.getLast? = some '\t'

/-- The operator of a redirection, of which one character is known. -/
def redirectOperator : Reading Text := do
  let dialect := (← get).dialect
  match ← take with
  | some '>' =>
    if ← takeIf '>' then return ">>".toList
    else if ← takeIf '|' then return ">|".toList
    else if ← takeIf '&' then return ">&".toList
    else return ">".toList
  | _ =>
    if ← takeIf '<' then
      if ← takeIf '-' then return "<<-".toList
      else if dialect = .large then
        if ← takeIf '<' then return "<<<".toList else return "<<".toList
      else return "<<".toList
    else if ← takeIf '&' then return "<&".toList
    else if ← takeIf '>' then return "<>".toList
    else return "<".toList

/-- The file number that stands before a redirection: a digit, or a number for the large shell. -/
def fileNumber? (dialect : Dialect) (w : Word) : Option (Option Nat) :=
  match plainText? w with
  | some [] => some none
  | some s =>
    if s.all Char.isDigit ∧ (dialect = .large ∨ s.length = 1) ∧ s.length < 8 then
      some ((String.ofList s).toNat?)
    else none
  | none => none

/-- Whether a word sets a variable to what follows, which may be a list for the large shell. -/
def beginsList (w : Word) : Bool :=
  let rec ends : Word → Bool
    | [] => false
    | [.plain s] => s.getLast? = some '='
    | _ :: rest => ends rest
  match w with
  | .plain s :: _ =>
    let name := s.takeWhile inName
    let rest := s.drop name.length
    isName name && (rest = ['='] || rest = ['+', '='] || (rest.head? == some '[' && ends w))
  | _ => false

/-- The words of a list that begins on a line, behind its parenthesis. -/
def listItems (g : Grammar) (start : Nat) : (fuel : Nat) → Reading (List (Option Word × Word))
  | 0 => return []
  | fuel + 1 => do
    match ← take with
    | none => refuse start .openList []
    | some c =>
      if c = ' ' ∨ c = '\t' ∨ c = '\n' then listItems g start fuel
      else if c = ')' then return []
      else if c = '#' then
        skipComment
        listItems g start fuel
      else
        giveBack (some c)
        if endsWord c then
          let r ← get
          set { r with last := .ofKind (if c = '(' then .left else .background) r.line }
          unexpected none
        let place ← if c = '[' then do
            discard take
            let w ← g.pieces (.braces [']'])
            discard take
            if ← takeIf '=' then pure (some w) else pure none
          else pure none
        let value ← g.pieces (.nothing false)
        return (place, value) :: (← listItems g start fuel)

/-- The text that has been read since so much was left, which only the large shell keeps. -/
def writtenFrom (before : Text) : Reading Text := do
  let r ← get
  return match r.dialect with
    | .small => []
    | .large => before.take (before.length - r.rest.length)

/-- A word, or a redirection that a number stands before. -/
def scanWord (g : Grammar) (look : Looking) : Reading Token := do
  let before ← get
  let start := before.line
  let w ← g.pieces (.nothing look.mark)
  let dialect := before.dialect
  let shown ← writtenFrom before.rest
  match ← peek, fileNumber? dialect w with
  | some '<', some fd | some '>', some fd =>
    let operator ← redirectOperator
    return ⟨.redirection, [], fd, operator, start, []⟩
  | some '(', _ =>
    if dialect = .large ∧ beginsList w = true then
      let listed := (← get).rest
      discard take
      let items ← listItems g start (← left)
      let list ← writtenFrom listed
      return ⟨.word, w ++ [.list items list], none, [], start, shown ++ list⟩
    else return ⟨.word, w, none, [], start, shown⟩
  | _, _ => return ⟨.word, w, none, [], start, shown⟩

/-- The next token, and whether an alias that ended with a blank has been left. -/
def scan (g : Grammar) (look : Looking) : (fuel : Nat) → (afterAlias : Bool) → Reading (Token × Bool)
  | 0, afterAlias => return (.ofKind .endOfText 0, afterAlias)
  | fuel + 1, afterAlias => do
    let c ← take
    let r ← get
    let line := if c = some '\n' then r.line - 1 else r.line
    let large := r.dialect == .large
    let found (kind : Kind) : Reading (Token × Bool) := return (.ofKind kind line, afterAlias)
    match c with
    | none => found .endOfText
    | some ' ' | some '\t' => scan g look fuel afterAlias
    | some '#' =>
      skipComment
      scan g look fuel afterAlias
    | some '\n' => found .newline
    | some '&' =>
      if ← takeIf '&' then found .both
      else if large && (← peek) == some '>' then
        discard take
        let appends ← takeIf '>'
        return (⟨.redirection, [], none, if appends then "&>>".toList else "&>".toList, line, []⟩,
          afterAlias)
      else found .background
    | some '|' =>
      if ← takeIf '|' then found .either
      else if large && (← peek) == some '&' then
        discard take
        found .pipeAll
      else found .pipe
    | some ';' =>
      if ← takeIf ';' then
        if large && (← peek) == some '&' then
          discard take
          found .endArmOnward
        else found .endArm
      else if large && (← peek) == some '&' then
        discard take
        found .endArmThrough
      else found .semicolon
    | some '(' => found .left
    | some ')' => found .right
    | some c =>
      if c = aliasEnd then
        let blank ← leaveAlias
        scan g look fuel (afterAlias || blank)
      else
        giveBack (some c)
        return (← scanWord g look, afterAlias)

/-! ## 2. Tokens in their places -/

/-- The next token, where what is looked for is found. -/
def nextToken (g : Grammar) (look : Looking) : (fuel : Nat) → Reading Token
  | 0 => return .ofKind .endOfText 0
  | fuel + 1 => do
    let r ← get
    let (t, afterAlias) ← if r.again then do
        set { r with again := false }
        pure (r.last, false)
      else scan g look (← left) false
    modify fun r => { r with last := t }
    if t.kind = .newline ∧ look.newlines = true then
      readDocuments g
      nextToken g look fuel
    else if t.kind ≠ .word ∨ hasQuotes t.word then return t
    else
      match plainText? t.word with
      | none => return t
      | some s =>
        let r ← get
        let keyword := if look.keywords then keyword? r.dialect s else none
        match keyword with
        | some kind =>
          let t := { t with kind }
          modify fun r => { r with last := t }
          return t
        | none =>
          if !(look.aliases || afterAlias) || r.expanding.contains s then return t
          else
            match r.aliases.lookup s with
            | none => return t
            | some text =>
              set { r with rest := text ++ aliasEnd :: r.rest, expanding := s :: r.expanding }
              nextToken g look fuel

/-- The next token. -/
def token (g : Grammar) (look : Looking) : Reading Token := do
  nextToken g look (2 * (← left) + 100)

/-- Takes a token that has to be there. -/
def expect (g : Grammar) (look : Looking) (kind : Kind) : Reading Unit := do
  if (← token g look).kind ≠ kind then unexpected (some kind)

end Manpage.Shell.Reading
