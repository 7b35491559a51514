/-
# Reading words

A word is read piece by piece.  What a character means depends on what is around it: nothing, the
braces of a parameter, double quotes, an arithmetic expression, or a document.
-/
import Manpage.Shell.Reader

namespace Manpage.Shell.Reading

/-! ## 1. Surroundings -/

/-- What is around the characters that are being read. -/
inductive Around
  /-- Nothing: the word ends with a blank or an operator.  The end mark of a document is taken as it
  is. -/
  | nothing (mark : Bool)
  /-- Braces outside quotes, up to one of some characters. -/
  | braces (stops : Text)
  | quotes
  /-- Braces inside quotes. -/
  | quotedBraces (stops : Text) (document : Bool)
  /-- Arithmetic, up to two parentheses or to a semicolon. -/
  | arithmetic
  /-- A regular expression in a condition, up to a blank outside its parentheses. -/
  | expression
  /-- A document, up to a line that is its end mark. -/
  | document (mark : Option Text) (tabs : Bool)
deriving DecidableEq, Repr

/-- Whether what is read is quoted. -/
def Around.isQuoted : Around → Bool
  | .nothing _ | .braces _ | .expression => false
  | _ => true

/-- The parts of the grammar that contain one another. -/
structure Grammar where
  /-- A list of commands, which may be empty, up to what ends lists. -/
  list : Reading (Option Command)
  /-- A list of commands that is not empty. -/
  body : Reading Command
  command : Reading Command
  /-- The pieces of a word up to its end. -/
  pieces : Around → Reading Word

/-! ## 2. Quotes -/

/-- A single character as a piece. -/
def pieceOf (around : Around) (c : Char) : Piece :=
  if around.isQuoted then .literal [c] else .plain [c]

/-- Takes text up to a single quote. -/
def takeSingle (start : Nat) : (fuel : Nat) → Reading Text
  | 0 => return []
  | fuel + 1 => do
    match ← takeRaw with
    | none => refuseOpen start (.unterminated '\'')
    | some '\'' => return []
    | some c => return c :: (← takeSingle start fuel)

/-- Takes up to so many digits of a base. -/
def takeCode (base : Nat) : (count : Nat) → Reading Text
  | 0 => return []
  | count + 1 => do
    match ← peekRaw with
    | some c =>
      let isDigit := if base = 8 then '0' ≤ c && c ≤ '7'
        else c.isDigit || ('a' ≤ c && c ≤ 'f') || ('A' ≤ c && c ≤ 'F')
      if isDigit then
        discard takeRaw
        return c :: (← takeCode base count)
      else return []
    | none => return []

/-- The number that digits are in a base. -/
def codeOf (base : Nat) (digits : Text) : Nat :=
  digits.foldl (fun n c =>
    n * base + (if c.isDigit then c.toNat - 48 else (c.toLower.toNat - 87))) 0

/-- A character by its number: one that is not of the smallest set stays as it is written. -/
def characterText (n : Nat) : Text :=
  if n < 128 then [Char.ofNat n]
  else
    let digits := (Nat.toDigits 16 n).map Char.toUpper
    if n < 0x10000 then '\\' :: 'u' :: List.replicate (4 - digits.length) '0' ++ digits
    else '\\' :: 'U' :: List.replicate (8 - digits.length) '0' ++ digits

/-- Takes text with escapes up to a single quote. -/
def takeEscaped (start : Nat) : (fuel : Nat) → Reading Text
  | 0 => return []
  | fuel + 1 => do
    match ← takeRaw with
    | none => refuseOpen start (.unterminated '\'')
    | some '\'' => return []
    | some '\\' =>
      let c ← takeRaw
      let octet (n : Nat) : Text := [Char.ofNat (n % 256)]
      let found ← match c with
        | some 'n' => pure ['\n']
        | some 't' => pure ['\t']
        | some 'r' => pure ['\r']
        | some 'a' => pure ['\x07']
        | some 'b' => pure ['\x08']
        | some 'f' => pure ['\x0c']
        | some 'v' => pure ['\x0b']
        | some 'e' | some 'E' => pure ['\x1b']
        | some '\\' => pure ['\\']
        | some '\'' => pure ['\'']
        | some '"' => pure ['"']
        | some '?' => pure ['?']
        | some 'x' => do
          let digits ← takeCode 16 2
          pure (if digits = [] then ['\\', 'x'] else octet (codeOf 16 digits))
        | some 'u' => do
          let digits ← takeCode 16 4
          pure (if digits = [] then ['\\', 'u'] else characterText (codeOf 16 digits))
        | some 'U' => do
          let digits ← takeCode 16 8
          pure (if digits = [] then ['\\', 'U'] else characterText (codeOf 16 digits))
        | some 'c' => do
          match ← takeRaw with
          | some d => pure (octet (d.toUpper.toNat ^^^ 64))
          | none => pure []
        | some d =>
          if '0' ≤ d ∧ d ≤ '7' then do
            let more ← takeCode 8 2
            pure (octet (codeOf 8 (d :: more)))
          else pure ['\\', d]
        | none => pure ['\\']
      return found ++ (← takeEscaped start fuel)
    | some c => return c :: (← takeEscaped start fuel)

/-- Text between quotes as pieces. -/
def quotedText (s : Text) : Word := if s = [] then [.quotes] else [.quotes, .literal s]

/-- Whether a piece is a parameter that may stand for any number of fields, also none. -/
def standsForMany : Word → Bool
  | [.parameter true (.mk ['@'] .none .value)] => true
  | [.parameter true (.mk _ (.all false) _)] => true
  | _ => false

/-- What stands between double quotes. -/
def doubleQuoted (g : Grammar) : Reading Word := do
  let inner ← g.pieces .quotes
  return if standsForMany inner then inner else .quotes :: inner

/-! ## 3. The output of commands -/

/-- Takes the text between backquotes, in which a backslash protects a few characters. -/
def takeBackquoted (start : Nat) (inQuotes : Bool) : (fuel : Nat) → Reading Text
  | 0 => return []
  | fuel + 1 => do
    match ← take with
    | none => refuseOpen start .endInBackquotes
    | some '\x60' => return []
    | some '\\' =>
      match ← takeRaw with
      | none => refuseOpen start .endInBackquotes
      | some c =>
        let bare := c = '\\' ∨ c = '\x60' ∨ c = '$' ∨ (inQuotes ∧ c = '"')
        let more ← takeBackquoted start inQuotes fuel
        return if bare then c :: more else '\\' :: c :: more
    | some c => return c :: (← takeBackquoted start inQuotes fuel)

/-- Runs a reader on a list of commands, apart from the documents and tokens around it. -/
def nested {α : Type} (act : Reading α) : Reading α := do
  let before ← get
  set { before with awaited := [], again := false }
  let result ← act
  modify fun r => { r with awaited := before.awaited, again := false, last := before.last }
  return result

/-- A command that does nothing. -/
def idle : Command := .pipe []

/-- Commands between backquotes, with the number of their first line: their text is read by itself,
from a first line of its own. -/
def backquoted (g : Grammar) (inQuotes : Bool) : Reading (Nat × Command) := do
  let start := (← get).line
  let text ← takeBackquoted start inQuotes (← left)
  nested do
    let outer ← get
    set { outer with rest := text, line := 1, source := text, firstLine := 1 }
    let body ← g.list
    modify fun r => { r with
      rest := outer.rest, line := outer.line, source := outer.source, firstLine := outer.firstLine }
    return (1, body.getD idle)

/-- Commands between parentheses, behind the first of them, with the number of the line that they begin
on. -/
def parenthesized (g : Grammar) : Reading (Nat × Command) := nested do
  let before ← get
  let blanks := before.rest.takeWhile fun c => c == '\n' || c == ' ' || c == '\t'
  let line := before.line + (blanks.filter (· == '\n')).length
  let body ← g.list
  let r ← get
  if r.last.kind ≠ .right ∨ !r.again then
    match r.dialect, r.last.kind with
    | .large, .endOfText =>
      let line := r.firstLine + (r.source.filter (· == '\n')).length
        + (if r.source.getLast? = some '\n' then 0 else 1)
      refuse line (.unterminated ')') []
    | _, _ => unexpected (some .right)
  return (line, body.getD idle)

/-! ## 4. Parameters -/

/-- The name, and the use, of a parameter in braces that the small shell reads first. -/
structure Opened where
  name : Text
  length : Bool
  bad : Bool

/-- Takes the name of a parameter in braces, and finds whether its length is asked for. -/
def takeName : Reading Opened := do
  let named : Reading Text := takeWhile inName
  let digits : Reading Text := takeWhile Char.isDigit
  match ← peek with
  | none => return ⟨[], false, true⟩
  | some '\x7d' => return ⟨[], false, true⟩
  | some c =>
    if beginsName c then return ⟨← named, false, false⟩
    else if c.isDigit then return ⟨← digits, false, false⟩
    else
      discard take
      if c = '#' then
        match ← peek with
        | some d =>
          if beginsName d then return ⟨← named, true, false⟩
          else if d.isDigit then return ⟨← digits, true, false⟩
          else
            -- the number of parameters, or the length of a special one
            discard take
            let next ← peek
            if d = '\x7d' ∨ next ≠ some '\x7d' then
              giveBack (some d)
              return ⟨['#'], false, false⟩
            else if isSpecialParameter d then return ⟨[d], true, false⟩
            else return ⟨[], false, true⟩
        | none => return ⟨['#'], false, false⟩
      else if isSpecialParameter c then return ⟨[c], false, false⟩
      else return ⟨[], false, true⟩

/-- What is around the word of a parameter in braces. -/
def aroundWord (around : Around) (stops : Text) : Around :=
  match around with
  | .nothing _ | .braces _ | .expression => .braces stops
  | .quotedBraces _ document => .quotedBraces stops document
  | .document .. => .quotedBraces stops true
  | .quotes | .arithmetic => .quotedBraces stops false

/-- Takes the brace that closes a parameter. -/
def closeBrace : Reading Unit := do discard take

/-- The word of a parameter up to the brace that closes it. -/
def lastWord (g : Grammar) (around : Around) : Reading Word := do
  let w ← g.pieces around
  closeBrace
  return w

/-- The use of one of the four words for a parameter that is not set. -/
def useOf (c : Char) (colon : Bool) (w : Word) : Use :=
  match c with
  | '-' => .default colon w
  | '+' => .alternative colon w
  | '?' => .required colon w
  | _ => .assign colon w

/-- A parameter in braces, behind the first of them, as the small shell reads it. -/
def smallBraces (g : Grammar) (around : Around) : Reading Parameter := do
  let inner := aroundWord around ['\x7d']
  let outside := Around.braces ['\x7d']
  let opened ← takeName
  let made (use : Use) : Parameter := .mk opened.name .none use
  if opened.bad then return made (.bad [] (← lastWord g inner))
  else if opened.length then
    if (← peek) = some '\x7d' then
      closeBrace
      return made .length
    else return made (.bad [] (← lastWord g inner))
  else
    match ← take with
    | some '\x7d' => return made .value
    | some ':' =>
      match ← take with
      | some c =>
        if c = '-' ∨ c = '+' ∨ c = '?' ∨ c = '=' then return made (useOf c true (← lastWord g inner))
        else return made (.bad [] (← lastWord g inner))
      | none => return made (.bad [] (← lastWord g inner))
    | some c =>
      if c = '-' ∨ c = '+' ∨ c = '?' ∨ c = '=' then return made (useOf c false (← lastWord g inner))
      else if c = '%' ∨ c = '#' then
        let longest ← takeIf c
        return made (.strip (c == '%') longest (← lastWord g outside))
      else return made (.bad [] (← lastWord g inner))
    | none => return made (.bad [] (← lastWord g inner))

/-- Takes an index in brackets, if there is one. -/
def takeIndex (g : Grammar) : Reading Index := do
  if ← takeIf '[' then
    let w ← g.pieces (.braces [']'])
    discard take
    return match plainText? w with
      | some ['@'] => .all false
      | some ['*'] => .all true
      | _ => .place w
  else return .none

/-- The use of a parameter of the large shell, behind its name. -/
def largeUse (g : Grammar) (around : Around) : Reading (Option Use) := do
  let inner := aroundWord around ['\x7d']
  let outside := Around.braces ['\x7d']
  let wholeOrFirst (c : Char) : Reading Bool := takeIf c
  match ← take with
  | some '\x7d' => return some .value
  | some ':' =>
    match ← peek with
    | some c =>
      if c = '-' ∨ c = '+' ∨ c = '?' ∨ c = '=' then
        discard take
        return some (useOf c true (← lastWord g inner))
      else if c = '\x7d' then return none
      else
        let offset ← g.pieces (aroundWord around [':', '\x7d'])
        match ← take with
        | some ':' => return some (.slice offset (some (← lastWord g inner)))
        | _ => return some (.slice offset none)
    | none => return none
  | some '/' =>
    let extent ← do
      match ← peek with
      | some '/' => discard take; pure Extent.all
      | some '#' => discard take; pure Extent.atStart
      | some '%' => discard take; pure Extent.atEnd
      | _ => pure Extent.first
    let pattern ← g.pieces (.braces ['/', '\x7d'])
    match ← take with
    | some '/' => return some (.replaced extent pattern (← lastWord g outside))
    | _ => return some (.replaced extent pattern [])
  | some c =>
    if c = '-' ∨ c = '+' ∨ c = '?' ∨ c = '=' then return some (useOf c false (← lastWord g inner))
    else if c = '%' ∨ c = '#' then
      let longest ← wholeOrFirst c
      return some (.strip (c == '%') longest (← lastWord g outside))
    else if c = '^' ∨ c = ',' then
      let all ← wholeOrFirst c
      return some (.letters (c == '^') all (← lastWord g outside))
    else if c = '@' then
      match ← take with
      | some kind =>
        if (← peek) = some '\x7d' then
          closeBrace
          return some (.formed kind)
        else return none
      | none => return none
    else return none
  | none => return none

/-- A parameter in braces, behind the first of them, as the large shell reads it. -/
def largeBraces (g : Grammar) (around : Around) : Reading Parameter := do
  let before := (← get).rest
  let bad : Reading Parameter := do
    let w ← lastWord g (aroundWord around ['\x7d'])
    let source := before.take (before.length - (← get).rest.length)
    return .mk [] .none (.bad ("$\x7b".toList ++ source) w)
  let indirect ← do
    if (← peek) = some '!' then
      let r ← get
      match Reading.withoutJoins (r.rest.drop 1) with
      | (_, c :: rest) =>
        if beginsName c ∨ c.isDigit ∨ (c = '#' ∧ rest.head? = some '\x7d') then
          discard take
          pure true
        else pure false
      | _ => pure false
    else pure false
  let opened ← takeName
  if opened.bad then bad
  else
    let index ← if opened.name.any inName then takeIndex g else pure Index.none
    let made (use : Use) : Parameter := .mk opened.name index use
    if opened.length then
      if ← takeIf '\x7d' then return made .length else bad
    else if indirect then
      match index, ← peek with
      | .none, some '*' | .none, some '@' =>
        discard take
        if ← takeIf '\x7d' then return made .names else bad
      | .all _, some '\x7d' =>
        closeBrace
        return made .indices
      | _, _ =>
        match ← largeUse g around with
        | some use => return made (.indirect use)
        | none => bad
    else
      match ← largeUse g around with
      | some use => return made use
      | none => bad

/-- What a dollar sign begins, behind it. -/
def dollar (g : Grammar) (around : Around) : Reading Word := do
  let quoted := around.isQuoted
  let r ← get
  let one (p : Parameter) : Word := [.parameter quoted p]
  match ← peek with
  | some '(' =>
    discard take
    let start := (← get).line
    let before ← get
    if ← takeIf '(' then
      let asCommands : Reading Word := do
        set before
        let (line, body) ← parenthesized g
        return [.output quoted line body]
      let asNumber : Reading Word := do
        let w ← g.pieces .arithmetic
        return [.arithmetic quoted w]
      match r.dialect with
      | .small => asNumber
      | .large => tryCatch asNumber fun fault =>
          if fault.problem = .missingParentheses then
            tryCatch asCommands fun _ => throw { fault with line := start }
          else throw fault
    else
      let (line, body) ← parenthesized g
      return [.output quoted line body]
  | some '\x7b' =>
    discard take
    match r.dialect with
    | .small => return one (← smallBraces g around)
    | .large =>
      let p ← tryCatch (largeBraces g around) fun fault =>
        throw (if fault.problem = .missingBrace then { fault with line := r.line } else fault)
      return one p
  | some c =>
    if beginsName c then return one (.mk (← takeWhile inName) .none .value)
    else if isSpecialParameter c then
      discard take
      return one (.mk [c] .none .value)
    else if r.dialect = .large ∧ quoted = false ∧ c = '\'' then
      discard take
      return quotedText (← takeEscaped r.line (← left))
    else if r.dialect = .large ∧ quoted = false ∧ c = '"' then
      discard take
      doubleQuoted g
    else return [pieceOf around '$']
  | none => return [pieceOf around '$']

/-! ## 5. Words -/

/-- The characters that end a word outside quotes. -/
def endsWord (c : Char) : Bool := "\n<>();&| \t".toList.contains c || c == aliasEnd

/-- What follows a backslash. -/
def escaped (around : Around) : Reading Word := do
  match ← takeRaw with
  | none => return [.literal ['\\']]
  | some c =>
    let protects := match around with
      | .nothing _ | .braces _ | .expression => true
      | .quotes => "\\\x60$\"".toList.contains c
      | .quotedBraces .. => "\\\x60$\"\x7d".toList.contains c
      | .arithmetic => "\\\x60$\"".toList.contains c
      | .document .. => "\\\x60$".toList.contains c
    return if protects then [.literal [c]] else [.literal ['\\', c]]

/-- Notes that a document with an end mark ends with the text. -/
def warnOpen (mark : Text) : Reading Unit := modify fun r =>
  { r with warnings := r.warnings ++ [(r.line - 1, mark)] }

/-- Ends a word where the text ends. -/
def endOfText (around : Around) (start : Nat) (pieces : List Piece) : Reading Word := do
  match around with
  | .nothing _ | .expression => return merge pieces.reverse
  | .document (some mark) _ =>
    if (← get).dialect = .large then
      warnOpen mark
    return merge pieces.reverse
  | .document .. => return merge pieces.reverse
  | .braces _ | .quotedBraces _ true => refuseOpen start .missingBrace
  | .quotedBraces _ false =>
    match (← get).dialect with
    | .small => refuseOpen start (.unterminated '"')
    | .large => refuseOpen start .missingBrace
  | .quotes => refuseOpen start (.unterminated '"')
  | .arithmetic =>
    match (← get).dialect with
    | .small => refuseOpen start .missingParentheses
    | .large => refuseOpen start (.unterminated ')')

/-- Reads over the end mark of a document at the beginning of a line, and tells whether it was there.
Tabs before it, or before another line, are left out if that is asked for. -/
def takeMark (mark : Option Text) (tabs : Bool) : Reading Bool := do
  let r ← get
  let rest := if tabs then r.rest.dropWhile (· == '\t') else r.rest
  match mark with
  | none => return false
  | some mark =>
    match mark.isPrefixOf? rest with
    | some [] =>
      if mark = [] then
        set { r with rest }
        return false
      else
        set { r with rest := [] }
        return true
    | some ('\n' :: after) =>
      set { r with rest := after, line := r.line + 1 }
      return true
    | _ =>
      set { r with rest }
      return false

/-- Whether the arithmetic ends here: two parentheses, of which the first has been taken. -/
def endsArithmetic : Reading Bool := takeIf ')'

/-- The character before the parenthesis of a group of patterns. -/
def beginsGroup (c : Char) : Bool := "?*+@!".toList.contains c

/-- Reads pieces up to the end of a word.  `depth` is the number of open parentheses, or one while a
quotation is open inside quoted braces. -/
def readPieces (g : Grammar) (around : Around) (start : Nat) :
    (fuel : Nat) → (depth : Nat) → List Piece → Reading Word
  | 0, _, pieces => return merge pieces.reverse
  | fuel + 1, depth, pieces => do
    let again (more : Word) : Reading Word :=
      readPieces g around start fuel depth (more.reverse ++ pieces)
    let done : Reading Word := return merge pieces.reverse
    match ← take with
    | none => endOfText around start pieces
    | some '\\' => again (← escaped around)
    | some '$' =>
      if around = .nothing true then again [.plain ['$']]
      else again (← dollar g around)
    | some '\x60' =>
      if around = .nothing true then again [.quotes, .plain ['\x60']]
      else
        let (line, body) ← backquoted g around.isQuoted
        again [.output around.isQuoted line body]
    | some c =>
      match around with
      | .nothing mark =>
        let r ← get
        let opens := r.rest.head? == some '(' && !mark
        if 0 < depth ∧ (c = '(' ∨ c = ')') then
          readPieces g around start fuel (if c = '(' then depth + 1 else depth - 1) (.plain [c] :: pieces)
        else if opens && r.groups && beginsGroup c then
          discard takeRaw
          readPieces g around start fuel (depth + 1) (.plain [c, '('] :: pieces)
        else if opens && r.dialect == .large && (c == '<' || c == '>') then
          discard takeRaw
          let (line, body) ← parenthesized g
          again [.process (c == '<') line body]
        else if depth = 0 ∧ endsWord c then
          giveBack (some c)
          done
        else if c = '\'' then again (quotedText (← takeSingle (← get).line (← left)))
        else if c = '"' then again (← doubleQuoted g)
        else again [.plain [c]]
      | .braces stops =>
        if stops.contains c then
          giveBack (some c)
          done
        else if c = '\'' then again (quotedText (← takeSingle (← get).line (← left)))
        else if c = '"' then again (← doubleQuoted g)
        else again [.plain [c]]
      | .expression =>
        if c = '(' then readPieces g around start fuel (depth + 1) (.plain [c] :: pieces)
        else if c = ')' ∧ 0 < depth then readPieces g around start fuel (depth - 1) (.plain [c] :: pieces)
        else if c = ' ' ∨ c = '\t' ∨ c = '\n' ∨ c = ')' ∨ c = ';' ∨ c = '&' then
          if 0 < depth ∧ c ≠ '\n' then again [.plain [c]]
          else
            giveBack (some c)
            done
        else if c = '\'' then again (quotedText (← takeSingle (← get).line (← left)))
        else if c = '"' then again (← doubleQuoted g)
        else again [.plain [c]]
      | .quotes => if c = '"' then done else again [.literal [c]]
      | .quotedBraces stops document =>
        if c = '"' then
          readPieces g around start fuel (1 - depth) ((if document then [] else [.quotes]) ++ pieces)
        else if depth = 0 && stops.contains c then
          giveBack (some c)
          done
        else again [.literal [c]]
      | .arithmetic =>
        if c = '"' ∧ (← get).dialect = .large then again []
        else if c = '(' then readPieces g around start fuel (depth + 1) (.literal [c] :: pieces)
        else if c = ')' then
          if 0 < depth then readPieces g around start fuel (depth - 1) (.literal [c] :: pieces)
          else if ← endsArithmetic then done
          else if (← get).dialect = .large then refuse (← get).line .missingParentheses []
          else again [.literal [c]]
        else again [.literal [c]]
      | .document mark tabs =>
        if c = '\n' then
          if ← takeMark mark tabs then return merge (.literal [c] :: pieces).reverse
          else again [.literal [c]]
        else again [.literal [c]]

/-- Reads the pieces of a word. -/
def piecesOf (g : Grammar) (around : Around) : Reading Word := do
  let start := (← get).line
  let begun ← match around with
    | .document mark tabs => do
      join
      takeMark mark tabs
    | _ => pure false
  if begun then return []
  else readPieces g around start (← left) 0 []

/-- Reads a document whose text stands for itself. -/
def plainDocument (mark : Text) (tabs : Bool) : (fuel : Nat) → Reading Text
  | 0 => return []
  | fuel + 1 => do
    if (← get).rest = [] then
      if (← get).dialect = .large then warnOpen mark
      return []
    else if ← takeMark (some mark) tabs then return []
    else
      let r ← get
      let row := r.rest.takeWhile (· != '\n')
      if row.length < r.rest.length then
        set { r with rest := r.rest.drop (row.length + 1), line := r.line + 1 }
        return row ++ '\n' :: (← plainDocument mark tabs fuel)
      else
        set { r with rest := [] }
        return row

/-- Reads the documents that are awaited. -/
def readDocuments (g : Grammar) : Reading Unit := do
  let awaited := (← get).awaited
  modify fun r => { r with awaited := [] }
  for d in awaited do
    let known := (← get).warnings.length
    let w ← if d.quoted then do
        let s ← plainDocument d.mark d.tabs (← left)
        pure [Piece.literal s]
      else g.pieces (.document (some d.mark) d.tabs)
    let warning (mark : Text) : Text :=
      "here-document at line ".toList ++ Text.ofNat d.line ++ " delimited by end-of-file (wanted \x60".toList
        ++ mark ++ "')".toList
    modify fun r => { r with
      documents := r.documents.setIfInBounds d.number w
      warnings := r.warnings.take known ++ (r.warnings.drop known).map fun (line, mark) =>
        (line, warning mark) }

end Manpage.Shell.Reading
