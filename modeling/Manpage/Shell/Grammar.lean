/-
# The grammar of scripts

Commands are read by descent: lists of conditional chains of pipelines of commands.  The small shell
and the large one share one grammar; what only the large one has is looked for only there.
-/
import Manpage.Shell.Scanner

namespace Manpage.Shell

namespace Reading

/-! ## 1. Redirections and words -/

/-- A document is awaited; gives its number. -/
def await (mark : Word) (tabs : Bool) (line : Nat) : Reading Nat := do
  let r ← get
  let number := r.documents.size
  let awaited : AwaitedDocument := ⟨number, unquoted mark, hasQuotes mark, tabs, line⟩
  set { r with documents := r.documents.push [], awaited := r.awaited ++ [awaited] }
  return number

/-- The redirection that a token begins. -/
def redirection (g : Grammar) (t : Token) : Reading Redirect := do
  let operator := String.ofList t.operator
  let isDocument := operator = "<<" ∨ operator = "<<-"
  let target ← token g { Looking.plainly with mark := isDocument }
  if target.kind ≠ .word then unexpected none
  let w := target.word
  let inward := t.operator.head? = some '<'
  let fd := t.fd.getD (if inward then 0 else 1)
  match operator with
  | "<" => return .file fd .input w target.shown
  | ">" => return .file fd .output w target.shown
  | ">|" => return .file fd .replace w target.shown
  | ">>" => return .file fd .append w target.shown
  | "<>" => return .file fd .update w target.shown
  | "<&" | ">&" => return .copy fd inward w
  | "<<" => return .document fd (← await w false t.line)
  | "<<-" => return .document fd (← await w true t.line)
  | "<<<" => return .word fd w
  | "&>>" => return .outputs true w target.shown
  | _ => return .outputs false w target.shown

/-- The redirections behind a compound command. -/
def redirections (g : Grammar) : (fuel : Nat) → Reading (List Redirect)
  | 0 => return []
  | fuel + 1 => do
    let t ← token g Looking.named
    if t.kind = .redirection then
      let first ← redirection g t
      return first :: (← redirections g fuel)
    else
      putBack
      return []

/-- The assignment that a word is, if it is one. -/
def assignment? (dialect : Dialect) (w : Word) : Option Assignment :=
  match w with
  | .plain s :: rest =>
    let name := s.takeWhile inName
    if !isName name then none
    else
      let valueOf (after : Text) : Assigned :=
        match after, rest with
        | [], [.list items shown] => .list items shown
        | _, _ => .text (if after = [] then rest else .plain after :: rest)
      match s.drop name.length, dialect with
      | '=' :: after, _ => some (.mk name none false (valueOf after))
      | '+' :: '=' :: after, .large => some (.mk name none true (valueOf after))
      | '[' :: _, .large =>
        -- the index ends with the first bracket that an equals sign follows
        let rec split : List Piece → Option (Word × Bool × Word)
          | [] => none
          | .plain t :: more =>
            let inside := t.takeWhile (· != ']')
            let keep (w : Word) : Word := if inside = [] then w else .plain inside :: w
            match t.drop inside.length with
            | ']' :: '=' :: after =>
              some (keep [], false, if after = [] then more else .plain after :: more)
            | ']' :: '+' :: '=' :: after =>
              some (keep [], true, if after = [] then more else .plain after :: more)
            | [] => (split more).map fun (index, append, value) => (keep index, append, value)
            | _ => none
          | p :: more => (split more).map fun (index, append, value) => (p :: index, append, value)
        (split (.plain (s.drop (name.length + 1)) :: rest)).map fun (index, append, value) =>
          .mk name (some index) append (match value with
            | [.list items shown] => .list items shown
            | value => .text value)
      | _, _ => none
  | _ => none

/-! ## 2. Conditions -/

/-- Operators of conditions before a word. -/
def isUnaryOperator (s : Text) : Bool :=
  match s with
  | ['-', c] => "abcdefghknoprstuvwxzGLNOSR".toList.contains c
  | _ => false

/-- Operators of conditions between words. -/
def isBinaryOperator (s : Text) : Bool :=
  ["=", "==", "!=", "=~", "-eq", "-ne", "-lt", "-le", "-gt", "-ge", "-nt", "-ot", "-ef"].contains
    (String.ofList s)

/-- Refuses a condition at the last token. -/
def badCondition {α : Type} (message : Text) : Reading α := do
  let t := (← get).last
  let shown := match t.kind with
    | .word | .keyword _ => unquoted t.word
    | .newline => "newline".toList
    | kind => kind.wording.filter (· != '"')
  refuse t.line (.badCondition message) shown

/-- A condition: alternatives, chains, and single ones, by level. -/
def condition (g : Grammar) : (fuel : Nat) → (level : Nat) → Reading Condition
  | 0, _ => return .word []
  | fuel + 1, level => do
    let look : Looking := ⟨true, true, false, false⟩
    match level with
    | 0 =>
      let a ← condition g fuel 1
      let t ← token g look
      if t.kind = .either then return .either a (← condition g fuel 0)
      else
        putBack
        return a
    | 1 =>
      let a ← condition g fuel 2
      let t ← token g look
      if t.kind = .both then return .both a (← condition g fuel 1)
      else
        putBack
        return a
    | _ =>
      let t ← token g look
      match t.kind with
      | .keyword "!" => return .not (← condition g fuel 2)
      | .left =>
        let c ← condition g fuel 0
        let closing ← token g look
        if closing.kind ≠ .right then unexpected none
        return c
      | .keyword "]]" => badCondition "unexpected token \x60]]' in conditional command".toList
      | .word | .keyword _ =>
        let text := unquoted t.word
        let isOperator := !hasQuotes t.word
        let next ← token g Looking.plainly
        if isOperator ∧ isUnaryOperator text ∧ next.kind = .word ∧ unquoted next.word ≠ "]]".toList then
          return .unary text next.word
        else if next.kind = .redirection ∧ (next.operator = ['<'] ∨ next.operator = ['>']) then
          let other ← token g Looking.plainly
          return .binary next.operator t.word other.word
        else if next.kind = .word ∧ isBinaryOperator (unquoted next.word) then
          let op := unquoted next.word
          if op = "=~".toList then
            discard (takeWhile fun c => c == ' ' || c == '\t')
            return .binary op t.word (← g.pieces .expression)
          else
            let groups := (← get).groups
            modify fun r => { r with groups := true }
            let other ← token g Looking.plainly
            modify fun r => { r with groups }
            if other.kind ≠ .word ∨ unquoted other.word = "]]".toList then
              badCondition ("unexpected argument \x60".toList ++ unquoted other.word
                ++ "' to conditional binary operator".toList)
            return .binary op t.word other.word
        else if next.kind = .word ∧ unquoted next.word ≠ "]]".toList then
          badCondition "conditional binary operator expected".toList
        else if next.kind = .newline ∨ next.kind = .endOfText then
          refuse next.line (.badCondition
            "unexpected token \x60newline', conditional binary operator expected".toList) text
        else
          putBack
          return .word t.word
      | _ => unexpected none

/-! ## 3. Simple commands and functions -/

/-- The names of commands that no function may take in the small shell. -/
def reservedNames : List Text :=
  [".", ":", "break", "continue", "eval", "exec", "exit", "export", "readonly", "return", "set",
   "shift", "times", "trap", "unset"].map String.toList

/-- A simple command that is being read. -/
structure Simple where
  assigns : List Assignment
  words : List Word
  redirects : List Redirect

/-- How many words and redirections have been read of a simple command. -/
def Simple.size (s : Simple) : Nat := s.assigns.length + s.words.length + s.redirects.length

/-- Whether the words of a command may be lists of values, since it declares variables. -/
def declares (words : List Word) : Bool :=
  match words.getLast? with
  | some [.plain s] =>
    ["declare", "typeset", "local", "readonly", "export"].contains (String.ofList s)
  | _ => false

/-- The definition of a function whose name and parenthesis have been read. -/
def functionAfter (g : Grammar) (name : Word) : Reading Command := do
  if (← token g Looking.plainly).kind ≠ .right then unexpected (some .right)
  let r ← get
  let n := unquoted name
  if r.dialect = .small ∧ (!isName n ∨ hasQuotes name ∨ reservedNames.contains n) then
    refuse r.line .badFunctionName []
  let line := r.line
  let t ← token g Looking.anew
  putBack
  if r.dialect = .large ∧ t.kind = .word then unexpected none
  return .define line n (← g.command)

/-- A simple command, word by word; `front` says that an assignment may come.  To the large shell its
line is the one where its second word ends. -/
def simpleCommand (g : Grammar) : (line : Nat) → (fuel : Nat) → (front : Bool) → Simple → Reading Command
  | line, 0, _, s => return .simple line s.assigns.reverse s.words.reverse s.redirects.reverse
  | line, fuel + 1, front, s => do
    let t ← token g { Looking.plainly with aliases := front }
    let r ← get
    let dialect := r.dialect
    let line := if dialect = .large ∧ s.size = 1 then (if t.kind = .newline then t.line else r.line)
      else line
    match t.kind with
    | .word =>
      match (if front then assignment? dialect t.word else none) with
      | some a => simpleCommand g line fuel true { s with assigns := a :: s.assigns }
      | none =>
        if t.word.any (fun p => match p with | .list _ _ => true | _ => false)
            ∧ declares s.words = false ∧ s.words.length = 0 then
          unexpected none
        simpleCommand g line fuel false { s with words := t.word :: s.words }
    | .redirection =>
      let redirect ← redirection g t
      simpleCommand g line fuel front { s with redirects := redirect :: s.redirects }
    | .left =>
      match s.assigns, s.words, s.redirects with
      | [], [name], [] => functionAfter g name
      | _, _, _ =>
        putBack
        return .simple line s.assigns.reverse s.words.reverse s.redirects.reverse
    | _ =>
      putBack
      return .simple line s.assigns.reverse s.words.reverse s.redirects.reverse

/-! ## 4. Compound commands -/

/-- What follows the condition of a choice. -/
def choiceAfter (g : Grammar) : (fuel : Nat) → Reading Command
  | 0 => return idle
  | fuel + 1 => do
    let condition ← g.body
    expect g Looking.plainly (.keyword "then")
    let yes ← g.body
    let t ← token g Looking.plainly
    if t.kind = .keyword "elif" then return .choice condition yes (some (← choiceAfter g fuel))
    else if t.kind = .keyword "else" then return .choice condition yes (some (← g.body))
    else
      putBack
      return .choice condition yes none

/-- Words up to another token, with how they were written. -/
def wordsOn (g : Grammar) : (fuel : Nat) → Reading (List (Word × Text))
  | 0 => return []
  | fuel + 1 => do
    let t ← token g Looking.plainly
    if t.kind = .word then return (t.word, t.shown) :: (← wordsOn g fuel) else return []

/-- The alternatives of an arm, of which the first has been read. -/
def alternatives (g : Grammar) : (fuel : Nat) → Token → Reading (List Word)
  | 0, _ => return []
  | fuel + 1, t => do
    let next ← token g Looking.plainly
    if next.kind = .pipe then return t.word :: (← alternatives g fuel (← token g Looking.plainly))
    else if next.kind ≠ .right then unexpected (some .right)
    else return [t.word]

/-- The arms of a selection up to its end. -/
def arms (g : Grammar) : (fuel : Nat) → Reading (List (List Word × Option Command × Fall))
  | 0 => return []
  | fuel + 1 => do
    let t ← token g ⟨true, true, false, false⟩
    if t.kind = .keyword "esac" then return []
    else
      let dialect := (← get).dialect
      let first ← if t.kind = .left then token g Looking.plainly else pure t
      if dialect = .large then
        match first.kind with
        | .word | .keyword _ => pure ()
        | _ => unexpected none
      let patterns ← alternatives g (← left) first
      let body ← g.list
      let closing ← token g ⟨true, true, false, false⟩
      match closing.kind with
      | .keyword "esac" => return [(patterns, body, .nowhere)]
      | .endArm => return (patterns, body, .nowhere) :: (← arms g fuel)
      | .endArmThrough => return (patterns, body, .through) :: (← arms g fuel)
      | .endArmOnward => return (patterns, body, .onward) :: (← arms g fuel)
      | _ => unexpected (some .endArm)

/-- Cuts the pieces of a counted loop at its semicolons. -/
def cutAtSemicolons : Word → List Word
  | [] => [[]]
  | .literal s :: rest =>
    let here := (Text.cutAt (· == ';') s).map fun t : Text => if t = [] then [] else [Piece.literal t]
    match here.reverse, cutAtSemicolons rest with
    | last :: before, first :: more => before.reverse ++ (last ++ first) :: more
    | _, more => more
  | p :: rest =>
    match cutAtSemicolons rest with
    | first :: more => (p :: first) :: more
    | [] => [[p]]

/-- The body of a loop. -/
def loopBody (g : Grammar) : Reading Command := do
  let t ← token g Looking.anew
  if t.kind = .keyword "\x7b" ∧ (← get).dialect = .large then
    let body ← g.body
    expect g Looking.plainly (.keyword "\x7d")
    return body
  else if t.kind ≠ .keyword "do" then unexpected (some (.keyword "do"))
  else
    let body ← g.body
    expect g Looking.plainly (.keyword "done")
    return body

/-- A loop over words, or one that counts. -/
def forLoop (g : Grammar) (line : Nat) : Reading Command := do
  let dialect := (← get).dialect
  let t ← token g Looking.plainly
  if dialect = .large ∧ t.kind = .left ∧ (← peek) = some '(' then
    let before := '(' :: (← get).rest
    discard take
    let parts := cutAtSemicolons (← g.pieces .arithmetic)
    match parts with
    | [start, test, step] =>
      let next ← token g Looking.anew
      if next.kind ≠ .semicolon then putBack
      return .counted line start test step (← loopBody g)
    | _ => refuse line .badCounting (← writtenFrom before)
  else
    let name := match dialect with
      | .small => unquoted t.word
      | .large => t.shown
    if t.kind ≠ .word then
      if dialect = .small then refuse (← get).line .badLoopVariable [] else unexpected none
    if dialect = .small ∧ (hasQuotes t.word ∨ (plainText? t.word).isNone ∨ !isName name) then
      refuse (← get).line .badLoopVariable []
    let next ← token g Looking.anew
    if next.kind = .keyword "in" then
      let words ← wordsOn g (← left)
      let closing := (← get).last
      if closing.kind ≠ .newline ∧ closing.kind ≠ .semicolon then unexpected none
      return .each line name (some (words.map Prod.fst)) (Text.join [' '] (words.map Prod.snd))
        (← loopBody g)
    else
      if next.kind ≠ .semicolon then putBack
      return .each line name none "\"$@\"".toList (← loopBody g)

/-- A loop that asks for words. -/
def menuLoop (g : Grammar) (line : Nat) : Reading Command := do
  let t ← token g Looking.plainly
  if t.kind ≠ .word then unexpected none
  let next ← token g Looking.anew
  if next.kind = .keyword "in" then
    let words ← wordsOn g (← left)
    let closing := (← get).last
    if closing.kind ≠ .newline ∧ closing.kind ≠ .semicolon then unexpected none
    return .menu line t.shown (some (words.map Prod.fst)) (← loopBody g)
  else
    if next.kind ≠ .semicolon then putBack
    return .menu line t.shown none (← loopBody g)

/-- A selection. -/
def selection (g : Grammar) (line : Nat) : Reading Command := do
  let t ← token g Looking.plainly
  if t.kind ≠ .word then unexpected (some .word)
  expect g Looking.anew (.keyword "in")
  return .select line t.word t.shown (← arms g (← left))

/-- Whether nothing but an arithmetic expression stands between two parentheses, of which the first
has been taken; reads it if so. -/
def arithmeticCommand? (g : Grammar) : Reading (Option Word) := do
  if (← get).dialect = .large ∧ (← get).rest.head? = some '(' then
    let before ← get
    discard take
    let attempt : Reading (Option Word) := do return some (← g.pieces .arithmetic)
    tryCatch attempt fun fault => do
      if fault.problem = .missingParentheses then
        set before
        return none
      else throw fault
  else return none

/-- A compound command with its redirections. -/
def compound (g : Grammar) (line : Nat) (body : Command) : Reading Command := do
  let redirects ← redirections g (← left)
  return if redirects.isEmpty then body else .redirected line body redirects

/-- A command. -/
def commandOf (g : Grammar) : Reading Command := do
  let line := (← get).line
  let t ← token g Looking.plainly
  match t.kind with
  | .keyword "if" =>
    let c ← choiceAfter g (← left)
    expect g Looking.plainly (.keyword "fi")
    compound g line c
  | .keyword "while" | .keyword "until" =>
    let condition ← g.body
    expect g Looking.plainly (.keyword "do")
    let body ← g.body
    expect g Looking.plainly (.keyword "done")
    compound g line (.loop (t.kind == .keyword "until") condition body)
  | .keyword "for" => compound g line (← forLoop g line)
  | .keyword "select" => compound g line (← menuLoop g line)
  | .keyword "case" => compound g line (← selection g line)
  | .keyword "[[" =>
    let c ← condition g (2 * (← left)) 0
    let closing ← token g ⟨true, false, false, false⟩
    if unquoted closing.word ≠ "]]".toList then unexpected none
    compound g line (.condition t.line c)
  | .keyword "function" =>
    let name := unquoted (← token g Looking.plainly).word
    let next ← token g Looking.anew
    if next.kind = .left then expect g Looking.plainly .right else putBack
    let start ← token g Looking.anew
    putBack
    if start.kind = .word then unexpected none
    return .define line name (← g.command)
  | .left =>
    match ← arithmeticCommand? g with
    | some w => compound g line (.arithmetic t.line w)
    | none =>
      let body ← g.body
      expect g Looking.plainly .right
      compound g line (.subshell line body)
  | .keyword "\x7b" =>
    let body ← g.body
    expect g Looking.plainly (.keyword "\x7d")
    compound g line body
  | .word | .redirection =>
    putBack
    simpleCommand g (← get).line (← left) true ⟨[], [], []⟩
  | _ => unexpected none

/-! ## 5. Pipelines and lists -/

/-- A command of which both outputs go into a pipe. -/
def bothOutputs (line : Nat) (c : Command) : Command :=
  .redirected line c [.copy 2 false [.plain ['1']]]

/-- The stages of a pipeline, of which the first is known. -/
def stages (g : Grammar) : (fuel : Nat) → Command → Reading (List Command)
  | 0, c => return [c]
  | fuel + 1, c => do
    let t ← token g Looking.plainly
    if t.kind = .pipe ∨ t.kind = .pipeAll then
      let c := if t.kind = .pipeAll then bothOutputs t.line c else c
      let next ← token g Looking.anew
      putBack
      if next.kind = .keyword "!" then unexpected none
      return c :: (← stages g fuel (← g.command))
    else
      putBack
      return [c]

/-- A pipeline, which may be negated. -/
def pipeline (g : Grammar) : (fuel : Nat) → Reading Command
  | 0 => return idle
  | fuel + 1 => do
    let t ← token g Looking.plainly
    if t.kind = .keyword "!" then
      let next ← token g Looking.named
      putBack
      if next.kind = .keyword "!" ∧ (← get).dialect = .large then return .negated (← pipeline g fuel)
      else
        match ← stages g (← left) (← g.command) with
        | [c] => return .negated c
        | cs => return .negated (.pipe cs)
    else
      putBack
      match ← stages g (← left) (← g.command) with
      | [c] => return c
      | cs => return .pipe cs

/-- What follows the first pipeline of a chain. -/
def chainOn (g : Grammar) : (fuel : Nat) → Command → Reading Command
  | 0, c => return c
  | fuel + 1, c => do
    let t ← token g Looking.plainly
    if t.kind = .both ∨ t.kind = .either then
      discard (token g Looking.anew)
      putBack
      let next ← pipeline g (← left)
      chainOn g fuel (if t.kind = .both then .both c next else .either c next)
    else
      putBack
      return c

/-- How a list of commands is read. -/
inductive Extent
  /-- Up to the end of a line. -/
  | line
  /-- Up to what ends lists; it may not be empty. -/
  | body
  /-- The same, and it may be empty. -/
  | list
deriving DecidableEq, Repr

/-- A command behind others. -/
def after (before : Option Command) (c : Command) : Command :=
  match before with
  | none => c
  | some b => .sequence b c

/-- A list of commands behind those that have been read. -/
def listOn (g : Grammar) (extent : Extent) : (fuel : Nat) → (first : Bool) → Option Command →
    Reading (Option Command)
  | 0, _, before => return before
  | fuel + 1, first, before => do
    let t ← token g ⟨extent != .line, true, true, false⟩
    if t.kind = .newline then
      readDocuments g
      return before
    else if t.kind = .endOfText then
      readDocuments g
      putBack
      return before
    else
      putBack
      if t.kind.endsList ∧ (extent = .list ∨ (extent = .body ∧ !first)) then return before
      else
        let c ← chainOn g (← left) (← pipeline g (← left))
        let t ← token g Looking.plainly
        let line := (← get).line
        let c := if t.kind = .background then Command.background line c else c
        let now := some (after before c)
        match t.kind with
        | .background | .semicolon => listOn g extent fuel false now
        | .newline =>
          putBack
          listOn g extent fuel false now
        | .endOfText =>
          readDocuments g
          putBack
          return now
        | _ =>
          if extent = .line then unexpected none
          putBack
          return now

/-- The grammar, as deep as scripts may be nested. -/
def grammar : (depth : Nat) → Grammar
  | 0 =>
    { list := unexpected none, body := unexpected none, command := unexpected none,
      pieces := fun _ => unexpected none }
  | depth + 1 =>
    { list := fun r => (do listOn (grammar depth) .list (← left) true none : Reading _) r
      body := fun r => (do
        return (← listOn (grammar depth) .body (← left) true none).getD idle : Reading _) r
      command := fun r => commandOf (grammar depth) r
      pieces := fun around r => piecesOf (grammar depth) around r }

end Reading

/-! ## Scripts -/

/-- What is read of a script next. -/
inductive Next
  | command (c : Command)
  | blank
  | finished

namespace Reader

/-- A script from its beginning. -/
def ofText (dialect : Dialect) (s : Text) (aliases : List (Text × Text)) (documents : Array Word)
    (line : Nat) : Reader where
  dialect := dialect
  rest := s.filter (· != '\x00')
  line := line
  source := s
  firstLine := line
  aliases := aliases
  expanding := []
  last := default
  again := false
  awaited := []
  groups := false
  documents := documents
  warnings := []

/-- How deep a script may be nested. -/
def depth (r : Reader) : Nat := 2 * r.rest.length + 1000

/-- Reads the next command of a script. -/
def next (r : Reader) : Except SyntaxFault (Next × Reader) := do
  let g := Reading.grammar r.depth
  let step : Reading Next := do
    modify fun r => { r with again := false, awaited := [] }
    match ← Reading.listOn g .line (← Reading.left) true none with
    | some c => return .command c
    | none => if (← get).last.kind = .endOfText then return .finished else return .blank
  step.run r

/-- A script in full lines: the large shell ends the last one if it does not end. -/
def inLines (dialect : Dialect) (s : Text) : Text :=
  match dialect, s.getLast? with
  | .large, some c => if c = '\n' then s else s ++ ['\n']
  | _, _ => s

/-- Reads a text as a word with parameters and the like, as in a document. -/
def wordOf (dialect : Dialect) (s : Text) : Except SyntaxFault Word := do
  let r := ofText dialect s [] #[] 1
  let (w, _) ← (Reading.piecesOf (Reading.grammar r.depth) (.document none false)).run r
  return w

end Reader

end Manpage.Shell
