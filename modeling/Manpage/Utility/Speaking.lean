/-
# Commands that write what they are given

Writing arguments as they are or in a format, sequences of numbers, and the same line over and over.
-/
import Manpage.Utility.Copying
import Manpage.Utility.Printf

namespace Manpage.Utility

open Printf (Style)

/-! ## 1. Arguments -/

/-- The options in front of the arguments of `echo`, letters of which every one is known: whether a
line feed is left out, and whether escapes have a meaning. -/
def echoOptions : (noBreak escapes : Bool) → List Text → Bool × Bool × List Text
  | noBreak, escapes, arg :: rest =>
    match arg with
    | '-' :: c :: letters =>
      let all := c :: letters
      if all.all fun l => l == 'n' || l == 'e' || l == 'E' then
        let noBreak := noBreak || all.contains 'n'
        let escapes := all.foldl (fun on l => if l = 'e' then true else if l = 'E' then false else on)
          escapes
        echoOptions noBreak escapes rest
      else (noBreak, escapes, arg :: rest)
    | _ => (noBreak, escapes, arg :: rest)
  | noBreak, escapes, [] => (noBreak, escapes, [])

/-- Takes an escape of `echo` after its backslash, outside the small shell. -/
def echoEscape (style : Style) (s : Text) : Printf.Escaped :=
  match s with
  | c :: _ =>
    if '1' ≤ c ∧ c ≤ '7' then
      if style = .largeShell then .chars ['\\'] s
      else Printf.escape .program true s
    else if c = '"' then .chars ['\\'] s
    else
      match Printf.escape (if style = .program then .largeShell else style) true s with
      | .chars found rest =>
        if style = .program ∧ (c = 'u' ∨ c = 'U' ∨ c = 'E') then .chars ['\\'] s else .chars found rest
      | e => e
  | [] => .chars ['\\'] []

/-- A text of `echo` with its escapes, and whether it stops what is written. -/
def echoText (style : Style) : (fuel : Nat) → Text → Text × Bool
  | 0, s => (s, false)
  | _ + 1, [] => ([], false)
  | fuel + 1, '\\' :: rest =>
    match (if style = .shell then Printf.escape .shell true rest else echoEscape style rest) with
    | .chars s rest =>
      let (more, stop) := echoText style fuel rest
      (s ++ more, stop)
    | _ => ([], true)
  | fuel + 1, c :: rest =>
    let (more, stop) := echoText style fuel rest
    (c :: more, stop)

/-- `echo`: writes its arguments. -/
def echo (style : Style) (args : List Text) : Work Nat := do
  let (noBreak, escapes, words) :=
    if style = .shell then
      match args with
      | ['-', 'n'] :: rest => (true, true, rest)
      | _ => (false, true, args)
    else echoOptions false false args
  let s := Text.join [' '] words
  if escapes then
    let (shown, stop) := echoText style (s.length + 1) s
    Work.out shown
    if !stop && !noBreak then Work.out ['\n']
  else
    Work.out s
    if !noBreak then Work.out ['\n']
  return 0

/-! ## 2. Formats -/

/-- Writes what a format comes to, and tells what was wrong. -/
def printed (p : Printf.Printed) : Work Nat := do
  for message in p.messages do
    Work.complain message
  Work.out p.output
  return p.status

/-- `printf` as a command by itself. -/
def printf (args : List Text) : Work Nat := do
  let args := match args with
    | ['-', '-'] :: rest => rest
    | args => args
  match args with
  | [] => misuse 1 "missing operand".toList
  | format :: args => printed (Printf.print .program format args)

/-- `printf` of the small shell. -/
def shellPrintf (args : List Text) : Work Nat := do
  let args ← match args with
    | ['-', '-'] :: rest => pure rest
    | ('-' :: c :: _) :: _ => Work.fail 2 ("Illegal option -".toList ++ [c])
    | args => pure args
  match args with
  | [] => Work.fail 2 "usage: printf format [arg ...]".toList
  | format :: args => printed (Printf.print .shell format args)

/-! ## 3. The same line over and over -/

/-- `yes`: writes a line until nobody reads it. -/
def yes (args : List Text) : Work Nat := do
  let words := match args with
    | ['-', '-'] :: rest => rest
    | args => args
  let line := (if words.isEmpty then ['y'] else Text.join [' '] words) ++ ['\n']
  let piece := (List.replicate (8192 / line.length + 1) line).flatten
  writeForever piece 100000
  return 0

/-! ## 4. Sequences of numbers -/

/-- A decimal: an integer over a power of ten. -/
structure DecimalNumber where
  scaled : Int
  places : Nat
deriving DecidableEq, Repr

namespace DecimalNumber

/-- The same number with more places. -/
def withPlaces (d : DecimalNumber) (places : Nat) : Int := d.scaled * Int.pow 10 (places - d.places)

/-- Reads a number; what is no finite number is refused. -/
def ofText? (s : Text) : Option DecimalNumber :=
  match takeNumber s with
  | some (⟨negative, .finite f⟩, []) =>
    -- a fraction that is read has a power of ten or of two below it
    let rec go : (fuel : Nat) → Nat → Option DecimalNumber
      | 0, _ => none
      | fuel + 1, places =>
        let n := f.num * Nat.pow 10 places
        if n % f.den = 0 then
          let m : Int := (n / f.den : Nat)
          some ⟨if negative then -m else m, places⟩
        else go fuel (places + 1)
    let written := match (s.dropWhile (· != '.')) with
      | '.' :: r => (r.takeWhile Char.isDigit).length
      | _ => 0
    let found := go 400 0
    found.map fun d =>
      let hasExponent := s.any fun c => c == 'e' || c == 'E' || c == 'x' || c == 'X'
      if hasExponent ∨ written ≤ d.places then d else ⟨d.withPlaces written, written⟩
  | _ => none

/-- A number with its places. -/
def text (scaled : Int) (places : Nat) : Text :=
  let digits := Fraction.fixed ⟨scaled.natAbs, Nat.pow 10 places⟩ places false
  if scaled < 0 then '-' :: digits else digits

end DecimalNumber

/-- The numbers from a first one on, in steps, up to a last one. -/
def numbersUpTo (step last : Int) : (fuel : Nat) → Int → List Int
  | 0, _ => []
  | fuel + 1, n =>
    if (0 < step ∧ last < n) ∨ (step < 0 ∧ n < last) then [] else n :: numbersUpTo step last fuel (n + step)

/-- A format for one number: what stands before it, how it is written, and what stands after it. -/
structure NumberFormat where
  before : Text
  directive : Printf.Directive
  after : Text

/-- Reads a format for one number. -/
def numberFormat? (format : Text) : Except Text NumberFormat :=
  let shown := "format ".toList ++ quotedWord format
  let rec upToPercent : (fuel : Nat) → Text → Text × Option Text
    | 0, _ => ([], none)
    | _ + 1, [] => ([], none)
    | fuel + 1, '%' :: '%' :: rest =>
      let (s, more) := upToPercent fuel rest
      ('%' :: s, more)
    | _ + 1, '%' :: rest => ([], some rest)
    | fuel + 1, c :: rest =>
      let (s, more) := upToPercent fuel rest
      (c :: s, more)
  match upToPercent (format.length + 1) format with
  | (_, none) => .error (shown ++ " has no % directive".toList)
  | (before, some rest) =>
    let flags := rest.takeWhile fun c => "-+#0 '".toList.contains c
    let rest := rest.drop flags.length
    let width := rest.takeWhile Char.isDigit
    let rest := rest.drop width.length
    let (precision, rest) := match rest with
      | '.' :: r =>
        let ds := r.takeWhile Char.isDigit
        (some (ofDigits 10 ds), r.drop ds.length)
      | r => (none, r)
    let rest := match rest with
      | 'L' :: r => r
      | r => r
    match rest with
    | [] => .error (shown ++ " ends in %".toList)
    | kind :: rest =>
      if "aAeEfFgG".toList.contains kind then
        match upToPercent (rest.length + 1) rest with
        | (after, none) =>
          .ok ⟨before, ⟨flags, ofDigits 10 width, precision, kind⟩, after⟩
        | (_, some _) => .error (shown ++ " has too many % directives".toList)
      else .error (shown ++ " has unknown %".toList ++ [kind] ++ " directive".toList)

/-- Whether an argument of `seq` is a negative number and no option. -/
def isNegativeNumber (arg : Text) : Bool :=
  match arg with
  | '-' :: c :: _ => c.isDigit || c == '.'
  | _ => false

/-- `seq`: writes a sequence of numbers. -/
def seq (args : List Text) : Work Nat := do
  let rec split : List Text → List Text × List Text
    | [] => ([], [])
    | arg :: rest =>
      if isNegativeNumber arg ∨ arg.head? ≠ some '-' then ([], arg :: rest)
      else if arg = "-s".toList ∨ arg = "-f".toList ∨ arg = "--separator".toList ∨ arg = "--format".toList
      then
        match rest with
        | value :: rest =>
          let (options, operands) := split rest
          (arg :: value :: options, operands)
        | [] => ([arg], [])
      else if arg = ['-', '-'] then ([], rest)
      else
        let (options, operands) := split rest
        (arg :: options, operands)
  let (options, operands) := split args
  let a ← arguments "f:format= s:separator= w:equal-width" options 1 true
  let read (s : Text) : Work DecimalNumber := do
    match DecimalNumber.ofText? s with
    | some d => return d
    | none =>
      match takeNumber s with
      | some (⟨_, .notANumber⟩, []) =>
        misuse 1 ("invalid 'not-a-number' argument: ".toList ++ quotedWord s)
      | some (⟨_, .infinite⟩, []) => return ⟨Int.pow 10 30, 0⟩
      | _ => misuse 1 ("invalid floating point argument: ".toList ++ quotedWord s)
  let one : DecimalNumber := ⟨1, 0⟩
  let (first, step, last) ← match operands with
    | [] => misuse 1 "missing operand".toList
    | [b] => do pure (one, one, ← read b)
    | [a, b] => do pure (← read a, one, ← read b)
    | [a, s, b] => do
      let first ← read a
      let step ← read s
      if step.scaled = 0 then
        misuse 1 ("invalid Zero increment value: ".toList ++ quotedWord s)
      pure (first, step, ← read b)
    | _ :: _ :: _ :: extra :: _ => misuse 1 ("extra operand ".toList ++ quotedWord extra)
  let format ← match a.value? "f" with
    | none => pure none
    | some f =>
      match numberFormat? f with
      | .ok f => pure (some f)
      | .error message => Work.fail 1 message
  let places := max first.places step.places
  let grid := max places last.places
  let numbers := numbersUpTo (step.withPlaces grid) (last.withPlaces grid) 3000000 (first.withPlaces grid)
  let plain (n : Int) : Text := DecimalNumber.text (n / Int.pow 10 (grid - places)) places
  let texts := match format with
    | some f => numbers.map fun n =>
      f.before ++ f.directive.floating ⟨n < 0, .finite ⟨n.natAbs, Nat.pow 10 grid⟩⟩ ++ f.after
    | none =>
      let bare := numbers.map plain
      if a.has "w" then
        let lastText := plain (last.withPlaces grid)
        let width := ((lastText :: bare).map List.length).foldl max 0
        let width := if bare.isEmpty then 0 else max width (plain (first.withPlaces grid)).length
        bare.map fun t => match t with
          | '-' :: digits => '-' :: List.replicate (width - t.length) '0' ++ digits
          | t => List.replicate (width - t.length) '0' ++ t
      else bare
  if !texts.isEmpty then
    Work.out (Text.join ((a.value? "s").getD ['\n']) texts)
    Work.out ['\n']
  return 0

end Manpage.Utility
