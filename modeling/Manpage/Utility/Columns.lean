/-
# Fields and characters of lines

Taking fields or characters out of lines, putting lines side by side, exchanging characters, and
breaking long lines.
-/
import Manpage.Utility.Input
import Manpage.Utility.Decimal

namespace Manpage.Utility

/-! ## 1. Fields -/

/-- A range of positions from one on; without a last one it goes to the end. -/
structure Span where
  first : Nat
  last : Option Nat
deriving DecidableEq, Repr

/-- Whether a position is in a range. -/
def Span.holds (s : Span) (n : Nat) : Bool :=
  s.first ≤ n && (match s.last with
    | some last => n ≤ last
    | none => true)

/-- The messages about a list of positions differ between fields and characters. -/
def badPosition (fields : Bool) (s : Text) : Text :=
  (if fields then "invalid field value " else "invalid byte/character position ").toList ++ quotedWord s

/-- Reads one position or range. -/
def span? (fields : Bool) (s : Text) : Except Text Span :=
  let fromOne : Text := if fields then "fields are numbered from 1".toList
    else "byte/character positions are numbered from 1".toList
  let number (t : Text) : Except Text Nat :=
    if t.all Char.isDigit then
      let n := ofDigits 10 t
      if Nat.pow 2 64 ≤ n + 1 then
        .error ((if fields then "field number " else "byte/character offset ").toList ++ quotedWord t
          ++ " is too large".toList)
      else .ok n
    else .error (badPosition fields s)
  match Text.cutAt (· == '-') s with
  | [one] => do
    if one.isEmpty then .error fromOne
    else
      let n ← number one
      if n = 0 then .error fromOne else .ok ⟨n, some n⟩
  | [low, high] => do
    if low.isEmpty && high.isEmpty then .error "invalid range with no endpoint: -".toList
    else
      let first ← if low.isEmpty then pure 1 else number low
      if first = 0 then .error fromOne
      else if high.isEmpty then .ok ⟨first, none⟩
      else
        let last ← number high
        if last < first then .error "invalid decreasing range".toList else .ok ⟨first, some last⟩
  | _ => .error (if fields then "invalid field range" else "invalid byte or character range").toList

/-- Reads a list of positions and ranges. -/
def spans? (fields : Bool) (s : Text) : Except Text (List Span) :=
  (Text.cutAt (fun c => c == ',' || c == ' ' || c == '\t') s).mapM (span? fields)

/-- The pieces of a list at the chosen positions, each with whether the one before it was not chosen or
a range begins with it. -/
def chosenPieces {α : Type} (spans : List Span) (turned : Bool) (pieces : List α) : List (Bool × α) :=
  let starts (n : Nat) : Bool := spans.any fun s => s.first == n
  let inside (n : Nat) : Bool := (spans.any (·.holds n)) != turned
  (pieces.zipIdx 1).filterMap fun (piece, n) =>
    if inside n then
      let joined := 1 < n && inside (n - 1) && !(starts n && !(spans.any fun s => s.first < n && s.holds n))
      some (!joined, piece)
    else none

/-- `cut`: takes fields or characters out of lines. -/
def cut (args : List Text) : Work Nat := do
  let a ← arguments ("b:bytes= c:characters= d:delimiter= f:fields= n s:only-delimited"
    ++ " -:complement -:output-delimiter= z:zero-terminated") args 1 false
  let lists := a.options.filter fun o => o.key == ['b'] || o.key == ['c'] || o.key == ['f']
  if 1 < lists.length then misuse 1 "only one list may be specified".toList
  match lists with
  | [] => misuse 1 "you must specify a list of bytes, characters, or fields".toList
  | list :: _ =>
    let fields := list.key == ['f']
    let delimiter := a.value? "d"
    if (delimiter.getD ['\t']).length > 1 then
      misuse 1 "the delimiter must be a single character".toList
    if !fields ∧ delimiter.isSome then
      misuse 1 "an input delimiter may be specified only when operating on fields".toList
    if !fields ∧ a.has "s" then
      misuse 1 "suppressing non-delimited lines makes sense\n\tonly when operating on fields".toList
    match spans? fields (list.value.getD []) with
    | .error message => misuse 1 message
    | .ok spans =>
      let mark := if a.has "z" then '\x00' else '\n'
      let separator := ((delimiter.getD ['\t']).head?).getD '\x00'
      let turned := a.has "complement"
      let between := a.value? "output-delimiter"
      let one (line : Text) : Option Text :=
        if fields then
          let pieces := Text.cutAt (· == separator) line
          if pieces.length = 1 then (if a.has "s" then none else some line)
          else
            let kept := (chosenPieces spans turned pieces).map Prod.snd
            some (Text.join (between.getD [separator]) kept)
        else
          let kept := chosenPieces spans turned line
          match between with
          | none => some (kept.map Prod.snd)
          | some t => some ((kept.zipIdx).flatMap fun ((starts, c), i) =>
              if starts ∧ 0 < i then t ++ [c] else [c])
      let paths := if a.operands.isEmpty then [['-']] else a.operands
      let mut fine := true
      for path in paths do
        match ← Source.openPath path with
        | .error fault =>
          Work.complain (faultText path fault)
          fine := false
        | .ok c =>
          match ← Source.ofChannel c with
          | .error fault =>
            Work.complain (faultText path fault)
            fine := false
          | .ok source =>
            for record in cutRecords mark source.text do
              let line := if record.getLast? = some mark then record.dropLast else record
              match one line with
              | some shown => Work.out (shown ++ [mark])
              | none => pure ()
            source.finish
      return statusOf fine

/-! ## 2. Lines side by side -/

/-- The separators of a list in which some are escaped; an escaped zero stands for none. -/
def separatorList : Text → List Text
  | [] => []
  | '\\' :: c :: rest =>
    (match c with
      | 'n' => ['\n']
      | 't' => ['\t']
      | '0' => []
      | 'b' => ['\x08']
      | 'f' => ['\x0c']
      | 'r' => ['\r']
      | 'v' => ['\x0b']
      | c => [c]) :: separatorList rest
  | c :: rest => [c] :: separatorList rest

/-- Texts with separators between them, which are used in turn. -/
def joinInTurn (separators : List Text) (pieces : List Text) : Text :=
  let n := separators.length
  (pieces.zipIdx.map fun (piece, i) =>
    if i = 0 then piece else ((separators[(i - 1) % (max n 1)]?).getD []) ++ piece).flatten

/-- `paste`: puts the lines of files side by side. -/
def paste (args : List Text) : Work Nat := do
  let a ← arguments "d:delimiters= s:serial z:zero-terminated" args 1 false
  let written := (a.value? "d").getD ['\t']
  if (written.reverse.takeWhile (· == '\\')).length % 2 = 1 then
    Work.fail 1 ("delimiter list ends with an unescaped backslash: ".toList ++ written)
  let given := separatorList written
  let mark := if a.has "z" then '\x00' else '\n'
  let linesOf (s : Text) : List Text :=
    (cutRecords mark s).map fun r => if r.getLast? = some mark then r.dropLast else r
  let separators := if given.isEmpty then [[]] else given
  let paths := if a.operands.isEmpty then [['-']] else a.operands
  let mut columns : List (List Text) := []
  let inputs := (paths.filter (· == ['-'])).length
  let mut fine := true
  -- the lines of the input go to its columns in turn
  let mut shared : List Text := []
  if 0 < inputs then
    match ← Work.input with
    | .ok s => shared := linesOf s
    | .error fault =>
      Work.complain (faultText ['-'] fault)
      fine := false
  let mut turn := 0
  for path in paths do
    if path = ['-'] then
      let own := if a.has "s" then (if turn = 0 then shared else [])
        else (shared.zipIdx.filter fun (_, i) => i % inputs == turn).map Prod.fst
      columns := columns ++ [own]
      turn := turn + 1
    else
      match ← Work.readFile path with
      | .ok s => columns := columns ++ [linesOf s]
      | .error fault =>
        Work.complain (faultText path fault)
        if a.has "s" then fine := false else throw (.exited 1)
  if a.has "s" then
    for column in columns do
      Work.out (joinInTurn separators column ++ [mark])
  else
    let rows := (columns.map List.length).foldl max 0
    for i in List.range rows do
      Work.out (joinInTurn separators (columns.map fun column => (column[i]?).getD []) ++ [mark])
  return statusOf fine

/-! ## 3. Characters -/

/-- A part of a list of characters to be exchanged. -/
inductive SetPart
  | chars (s : Text)
  /-- A named class. -/
  | named (name : Text) (s : Text)
  /-- One character as often as needed, or a number of times. -/
  | repeated (c : Char) (count : Option Nat)
deriving DecidableEq, Repr

/-- All bytes. -/
def allOctets : Text := (List.range 256).map Char.ofNat

/-- The characters of a named class. -/
def classChars? (name : Text) : Option Text :=
  let pick (p : Char → Bool) : Option Text := some (allOctets.filter p)
  match String.ofList name with
  | "alpha" => pick Char.isAlpha
  | "digit" => pick Char.isDigit
  | "alnum" => pick Char.isAlphanum
  | "upper" => pick Char.isUpper
  | "lower" => pick Char.isLower
  | "space" => pick fun c => c == ' ' || ('\t' ≤ c && c ≤ '\r')
  | "blank" => pick isBlankOctet
  | "punct" => pick fun c => '!' ≤ c && c ≤ '~' && !c.isAlphanum
  | "print" => pick fun c => ' ' ≤ c && c ≤ '~'
  | "graph" => pick fun c => '!' ≤ c && c ≤ '~'
  | "cntrl" => pick fun c => c.toNat < 32 || c.toNat == 127
  | "xdigit" => pick fun c => (hexValue? c).isSome
  | _ => none
where
  /-- A blank between words. -/
  isBlankOctet (c : Char) : Bool := c == ' ' || c == '\t'

/-- Takes one character, which may be escaped. -/
def setChar (s : Text) : Option (Char × Text) :=
  match s with
  | [] => none
  | '\\' :: c :: rest =>
    let simple := List.lookup c [('a', '\x07'), ('b', '\x08'), ('f', '\x0c'), ('n', '\n'), ('r', '\r'),
      ('t', '\t'), ('v', '\x0b'), ('\\', '\\')]
    match simple with
    | some meant => some (meant, rest)
    | none =>
      if '0' ≤ c ∧ c ≤ '7' then
        let digits := ((c :: rest).take 3).takeWhile fun d => '0' ≤ d && d ≤ '7'
        let digits := if 255 < ofDigits 8 digits then digits.take 2 else digits
        some (Char.ofNat (ofDigits 8 digits), (c :: rest).drop digits.length)
      else some (c, rest)
  | c :: rest => some (c, rest)

/-- Reads a list of characters to be exchanged. -/
def setParts : (fuel : Nat) → Text → Except Text (List SetPart)
  | 0, _ => .ok []
  | _ + 1, [] => .ok []
  | fuel + 1, s => do
    let named : Option (Text × Text) := match s with
      | '[' :: ':' :: rest =>
        let name := rest.takeWhile (· != ':')
        match rest.drop name.length with
        | ':' :: ']' :: rest => some (name, rest)
        | _ => none
      | _ => none
    match named with
    | some (name, rest) =>
      match classChars? name with
      | some chars => return .named name chars :: (← setParts fuel rest)
      | none => .error ("invalid character class ".toList ++ quotedWord name)
    | none =>
      match s with
      | '[' :: '=' :: c :: '=' :: ']' :: rest => return .chars [c] :: (← setParts fuel rest)
      | _ =>
        match repeat? s with
        | some (part, rest) => return part :: (← setParts fuel rest)
        | none =>
          match setChar s with
          | none => return []
          | some (low, rest) =>
            match rest with
            | '-' :: rest' =>
              match setChar rest' with
              | none => return .chars [low, '-'] :: (← setParts fuel [])
              | some (high, rest'') =>
                if high.toNat < low.toNat then
                  .error ("range-endpoints of '".toList ++ [low, '-', high]
                    ++ "' are in reverse collating sequence order".toList)
                else
                  let run := (List.range (high.toNat + 1 - low.toNat)).map fun i =>
                    Char.ofNat (low.toNat + i)
                  return .chars run :: (← setParts fuel rest'')
            | _ => return .chars [low] :: (← setParts fuel rest)
where
  /-- Takes a character that is repeated, between brackets. -/
  repeat? (s : Text) : Option (SetPart × Text) :=
    match s with
    | '[' :: rest =>
      match setChar rest with
      | some (c, '*' :: rest) =>
        let digits := rest.takeWhile Char.isDigit
        match rest.drop digits.length with
        | ']' :: rest =>
          let n := if digits.head? = some '0' then ofDigits 8 digits else ofDigits 10 digits
          some (.repeated c (if n = 0 then none else some n), rest)
        | _ => none
      | _ => none
    | _ => none

/-- The characters of parts; what is repeated as needed fills up to a length. -/
def expandParts (length : Nat) (parts : List SetPart) : Text :=
  let fixed : Nat := parts.foldl (fun n part => match part with
    | .chars s | .named _ s => n + s.length
    | .repeated _ (some k) => n + k
    | .repeated _ none => n) 0
  parts.flatMap fun
    | .chars s | .named _ s => s
    | .repeated c (some k) => List.replicate k c
    | .repeated c none => List.replicate (length - fixed) c

/-- Leaves one of several equal neighbours that are in a list. -/
def squeezed (set : Text) : (last : Option Char) → Text → Text
  | _, [] => []
  | last, c :: rest =>
    if last = some c ∧ set.contains c = true then squeezed set last rest
    else c :: squeezed set (some c) rest

/-- `tr`: exchanges, removes or squeezes characters. -/
def tr (args : List Text) : Work Nat := do
  let a ← arguments "c:complement C d:delete s:squeeze-repeats t:truncate-set1" args 1 true
  let deletes := a.has "d"
  let squeezes := a.has "s"
  let least := if deletes == squeezes then 2 else 1
  let most := if deletes && !squeezes then 1 else 2
  match a.operands with
  | [] => misuse 1 "missing operand".toList
  | [s] =>
    if least = 2 then
      Work.complain ("missing operand after ".toList ++ quotedWord s)
      Work.errors (if squeezes then
        "Two strings must be given when both deleting and squeezing repeats.\n".toList
        else "Two strings must be given when translating.\n".toList)
      hint
      throw (.exited 1)
  | operands =>
    if most < operands.length then
      Work.complain ("extra operand ".toList ++ quotedWord (operands.getD most []))
      if operands.length = 2 then
        Work.errors "Only one string may be given when deleting without squeezing repeats.\n".toList
      hint
      throw (.exited 1)
  let read (s : Text) : Work (List SetPart) := do
    match setParts (s.length + 1) s with
    | .ok parts => return parts
    | .error message => Work.fail 1 message
  let parts ← read (a.operands.headD [])
  if parts.any fun part => match part with
      | .repeated .. => true
      | _ => false then
    Work.fail 1 "the [c*] repeat construct may not appear in string1".toList
  let plain := expandParts 0 parts
  let complement := a.has "c" || a.has "C"
  let first := if complement then allOctets.filter fun c => !plain.contains c else plain
  let second ← match a.operands[1]? with
    | some s => do
      let parts ← read s
      pure (some (expandParts first.length parts))
    | none => pure none
  let translates := second.isSome && !deletes
  if translates ∧ second = some [] ∧ a.has "t" = false then
    Work.fail 1 "when not truncating set1, string2 must be non-empty".toList
  let target (n : Nat) : Option Char := match second with
    | none => none
    | some s =>
      match s[n]? with
      | some c => some c
      | none => if a.has "t" then none else s.getLast?
  let firstOf (c : Char) : Option Nat :=
    -- of several places in the first list the last one counts
    ((first.zipIdx.filter fun (d, _) => d == c).getLast?).map Prod.snd
  let exchanged (c : Char) : Char :=
    match firstOf c with
    | none => c
    | some n => (target n).getD c
  match ← Work.channelOf? 0 with
  | none => Work.fail 1 "read error: Bad file descriptor".toList
  | some c =>
    match ← Source.ofChannel c with
    | .error fault => Work.fail 1 ("read error: ".toList ++ fault.wording)
    | .ok source =>
      let s := source.text
      let changed :=
        if deletes then s.filter fun c => !first.contains c
        else if translates then s.map exchanged
        else s
      let result := if squeezes then squeezed (second.getD first) none changed else changed
      Work.out result
      source.finish
      return 0

/-! ## 4. Long lines -/

/-- The column behind a character. -/
def columnAfter (bytes : Bool) (column : Nat) (c : Char) : Nat :=
  if bytes then column + 1
  else if c = '\x08' then column - 1
  else if c = '\r' then 0
  else if c = '\t' then column / 8 * 8 + 8
  else column + 1

/-- The length of the first part of a line that is broken at a width; at the last blank if asked for. -/
def breakAt (bytes atBlanks : Bool) (width : Nat) (line : Text) : Nat :=
  let rec go : Text → (column taken : Nat) → Nat
    | [], _, taken => taken
    | c :: rest, column, taken =>
      let column := columnAfter bytes column c
      if width < column then (if taken = 0 then 1 else taken) else go rest column (taken + 1)
  let n := go line 0 0
  if n < line.length ∧ atBlanks = true then
    let part := line.take n
    let kept := Text.dropEndWhile (fun c => !(c == ' ' || c == '\t')) part
    if kept.isEmpty then n else kept.length
  else n

/-- A line broken into parts. -/
def foldLine (bytes atBlanks : Bool) (width : Nat) : (fuel : Nat) → Text → List Text
  | 0, line => [line]
  | fuel + 1, line =>
    let n := breakAt bytes atBlanks width line
    if line.length ≤ n then [line]
    else line.take n :: foldLine bytes atBlanks width fuel (line.drop n)

/-- `fold`: breaks long lines. -/
def fold (args : List Text) : Work Nat := do
  let args := args.map fun arg => match arg with
    | '-' :: c :: rest => if c.isDigit && rest.all Char.isDigit then "-w".toList ++ c :: rest else arg
    | _ => arg
  let a ← arguments "b:bytes s:spaces w:width=" args 1 false
  let given := (a.value? "w").getD "80".toList
  let width ← match countOf? given with
    | some 0 => Work.fail 1 ("invalid number of columns: ".toList ++ quotedWord given
        ++ ": Numerical result out of range".toList)
    | some n => pure n
    | none => Work.fail 1 ("invalid number of columns: ".toList ++ quotedWord given)
  let (found, fine) ← readAll a.operands faultText
  for (_, s) in found do
    for line in cutLines s do
      let body := bare line
      let parts := foldLine (a.has "b") (a.has "s") width (body.length + 1) body
      Work.out (Text.join ['\n'] parts ++ line.drop body.length)
  return statusOf fine

end Manpage.Utility
