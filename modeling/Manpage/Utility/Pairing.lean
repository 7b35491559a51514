/-
# Two sorted files

Lines of two sorted files side by side, and lines of two files that have a field in common.  Both commands
notice lines that are out of order, and at first only once a line without partner has been seen.
-/
import Manpage.Utility.Sorting

namespace Manpage.Utility

/-! ## 1. Order -/

/-- When lines are checked for their order: never, once a line had no partner, or always. -/
inductive OrderCheck
  | never
  | later
  | always
deriving DecidableEq, Repr

/-- The check that options ask for. -/
def OrderCheck.ofArguments (a : Arguments) : OrderCheck :=
  match a.lastOf? ["check-order", "nocheck-order"] with
  | some name => if name = "check-order".toList then .always else .never
  | none => .later

/-- Whether the order matters now. -/
def OrderCheck.applies (check : OrderCheck) (alone : Bool) : Bool :=
  match check with
  | .never => false
  | .later => alone
  | .always => true

/-- What happens while two files are gone through: a line is written, in a column or as it is, or a file
is found to be out of order at a line. -/
inductive PairEvent
  | line (column : Nat) (text : Text)
  | disorder (file number : Nat) (text : Text)
deriving DecidableEq, Repr

/-! ## 2. Side by side -/

/-- The lines of a file from the current one on, and those before it, the last first. -/
structure Side where
  before : List Text
  lines : List Text
  told : Bool

/-- Goes to the next line of a side; the two lines compared are the last two that are known. -/
def Side.advance (check : Bool) (file : Nat) (side : Side) : Side × List PairEvent :=
  match side.lines with
  | [] => (side, [])
  | line :: rest =>
    let wrong := match rest, side.before with
      | next :: _, _ => if compareTexts line next == .gt then some next else none
      | [], earlier :: _ => if compareTexts earlier line == .gt then some line else none
      | [], [] => none
    let side : Side := { side with before := [line], lines := rest }
    match wrong with
    | some text =>
      if check && !side.told then ({ side with told := true }, [.disorder file 0 text]) else (side, [])
    | none => (side, [])

/-- The lines of two files side by side: those of the first alone, of the second alone, and of both. -/
def sideBySide (check : OrderCheck) : (fuel : Nat) → (alone : Bool) → Side → Side → List PairEvent
  | 0, _, _, _ => []
  | fuel + 1, alone, left, right =>
    match left.lines, right.lines with
    | [], [] => []
    | s :: _, [] =>
      let (left, events) := left.advance (check.applies true) 1
      .line 1 s :: events ++ sideBySide check fuel true left right
    | [], t :: _ =>
      let (right, events) := right.advance (check.applies true) 2
      .line 2 t :: events ++ sideBySide check fuel true left right
    | s :: _, t :: _ =>
      match compareTexts s t with
      | .eq =>
        let (left, first) := left.advance (check.applies alone) 1
        let (right, second) := right.advance (check.applies alone) 2
        .line 3 s :: first ++ second ++ sideBySide check fuel alone left right
      | .lt =>
        let (left, events) := left.advance (check.applies true) 1
        .line 1 s :: events ++ sideBySide check fuel true left right
      | .gt =>
        let (right, events) := right.advance (check.applies true) 2
        .line 2 t :: events ++ sideBySide check fuel true left right

/-- The lines of a file that a command cannot do without. -/
def linesOrFail (mark : Char) (path : Text) : Work (List Text) := do
  match ← Work.readFile path with
  | .ok s => return (cutRecords mark s).map fun r => if r.getLast? = some mark then r.dropLast else r
  | .error fault => Work.fail 1 (faultText path fault)

/-- Refuses operands other than two files. -/
def twoOperands (a : Arguments) : Work (Text × Text) := do
  match a.operands with
  | [p, q] => return (p, q)
  | [] => misuse 1 "missing operand".toList
  | [p] => misuse 1 ("missing operand after ".toList ++ quotedWord p)
  | _ :: _ :: r :: _ => misuse 1 ("extra operand ".toList ++ quotedWord r)

/-- `comm`: compares two sorted files. -/
def comm (args : List Text) : Work Nat := do
  let a ← arguments "1 2 3 -:check-order -:nocheck-order -:output-delimiter= -:total z:zero-terminated"
    args 1 false
  let (p, q) ← twoOperands a
  let mark := if a.has "z" then '\x00' else '\n'
  let ss ← linesOrFail mark p
  let ts ← linesOrFail mark q
  let between := (a.value? "output-delimiter").getD ['\t']
  let check := OrderCheck.ofArguments a
  let shows (n : Nat) : Bool := !a.has (toString n)
  let events := sideBySide check (ss.length + ts.length + 1) false ⟨[], ss, false⟩ ⟨[], ts, false⟩
  let mut counts := [0, 0, 0]
  let mut wrong := false
  for event in events do
    match event with
    | .line n text =>
      counts := counts.modify (n - 1) (· + 1)
      if shows n then
        let before := ((List.range n).filter fun k => 0 < k && shows k).length
        Work.out ((List.replicate before between).flatten ++ text ++ [mark])
    | .disorder file _ _ =>
      Work.complain ("file ".toList ++ Text.ofNat file ++ " is not in sorted order".toList)
      if check = .always then throw (.exited 1)
      wrong := true
  if a.has "total" then
    Work.out (Text.join between (counts.map Text.ofNat ++ ["total".toList]) ++ [mark])
  if wrong then Work.fail 1 "input is not in sorted order".toList
  return 0

/-! ## 3. Fields in common -/

/-- The fields of a line: between separators, or between blanks; blanks at the end make an empty field. -/
def fieldsOfLine (separator : Option Char) (line : Text) : List Text :=
  match separator with
  | some '\n' => if line.isEmpty then [] else [line]
  | some c => if line.isEmpty then [] else Text.cutAt (· == c) line
  | none =>
    let isGap (c : Char) : Bool := c == ' ' || c == '\t'
    let words := (Text.cutAt isGap line).filter (· ≠ [])
    if !words.isEmpty && line.getLast?.any isGap then words ++ [[]] else words

/-- A line with its number and its fields. -/
structure FieldLine where
  number : Nat
  text : Text
  fields : List Text

/-- How lines are joined: which field of each file is compared, and what is written of a pair. -/
structure JoinPlan where
  key1 : Nat
  key2 : Nat
  fold : Bool
  check : OrderCheck
  /-- Whether lines without partner are written, of the first and of the second file. -/
  alone1 : Bool
  alone2 : Bool
  pairs : Bool
  between : Char
  mark : Char
  filler : Text
  /-- The file and the field of each part of a line; the file zero is the field compared. -/
  format : Option (List (Nat × Nat))
  /-- How many fields of each file are written, if not all. -/
  counts : Option (Nat × Nat)

namespace JoinPlan

/-- The field of a line that is compared; upper and lower case may be the same. -/
def keyOf (plan : JoinPlan) (key : Nat) (line : FieldLine) : Text :=
  let s := (line.fields[key]?).getD []
  if plan.fold then s.map Char.toUpper else s

/-- A field as it is written. -/
def field (plan : JoinPlan) (line : Option FieldLine) (n : Nat) : Text :=
  match line.bind fun l => l.fields[n]? with
  | some s => if s.isEmpty then plan.filler else s
  | none => plan.filler

/-- The fields of a line other than the one that is compared. -/
def others (plan : JoinPlan) (line : Option FieldLine) (key : Nat) (count : Option Nat) : List Text :=
  let n := count.getD ((line.map fun l => l.fields.length).getD 0)
  ((List.range n).filter (· ≠ key)).map (plan.field line)

/-- What is written of two lines, of which one may be missing. -/
def row (plan : JoinPlan) (s t : Option FieldLine) : Text :=
  let common : Text := if s.isSome then plan.field s plan.key1 else plan.field t plan.key2
  let parts := match plan.format with
    | some format => format.map fun (file, n) =>
      if file = 0 then common else if file = 1 then plan.field s n else plan.field t n
    | none =>
      common :: plan.others s plan.key1 (plan.counts.map Prod.fst)
        ++ plan.others t plan.key2 (plan.counts.map Prod.snd)
  Text.join [plan.between] parts ++ [plan.mark]

end JoinPlan

/-- The lines that are left of both files, and whether each has been told to be out of order. -/
structure Joining where
  left : List FieldLine
  right : List FieldLine
  alone : Bool
  told1 : Bool
  told2 : Bool
  events : List PairEvent

namespace Joining

/-- Writes a line. -/
def write (text : Text) (j : Joining) : Joining := { j with events := .line 0 text :: j.events }

/-- Goes to the next line of the first file. -/
def advance1 (plan : JoinPlan) (j : Joining) : Joining :=
  match j.left with
  | [] => j
  | [_] => { j with left := [] }
  | line :: next :: rest =>
    let j := { j with left := next :: rest }
    if plan.check.applies j.alone && !j.told1
        && compareTexts (plan.keyOf plan.key1 line) (plan.keyOf plan.key1 next) == .gt then
      { j with told1 := true, events := .disorder 1 next.number next.text :: j.events }
    else j

/-- Goes to the next line of the second file. -/
def advance2 (plan : JoinPlan) (j : Joining) : Joining :=
  match j.right with
  | [] => j
  | [_] => { j with right := [] }
  | line :: next :: rest =>
    let j := { j with right := next :: rest }
    if plan.check.applies j.alone && !j.told2
        && compareTexts (plan.keyOf plan.key2 line) (plan.keyOf plan.key2 next) == .gt then
      { j with told2 := true, events := .disorder 2 next.number next.text :: j.events }
    else j

/-- Goes through both files as long as both have lines. -/
def together (plan : JoinPlan) : (fuel : Nat) → Joining → Joining
  | 0, j => j
  | fuel + 1, j =>
    match j.left, j.right with
    | s :: ss, t :: ts =>
      let key := plan.keyOf plan.key1 s
      let other := plan.keyOf plan.key2 t
      match compareTexts key other with
      | .lt =>
        let j := if plan.alone1 then j.write (plan.row (some s) none) else j
        let j := j.advance1 plan
        together plan fuel { j with alone := true }
      | .gt =>
        let j := if plan.alone2 then j.write (plan.row none (some t)) else j
        let j := j.advance2 plan
        together plan fuel { j with alone := true }
      | .eq =>
        let same1 := s :: ss.takeWhile fun line => plan.keyOf plan.key1 line == other
        let same2 := t :: ts.takeWhile fun line => plan.keyOf plan.key2 line == key
        let j := Nat.repeat (advance1 plan) same1.length j
        let j := Nat.repeat (advance2 plan) same2.length j
        let rows := if plan.pairs then
            same1.flatMap fun s => same2.map fun t => PairEvent.line 0 (plan.row (some s) (some t))
          else []
        together plan fuel { j with events := rows.reverse ++ j.events }
    | _, _ => j

/-- Goes through what is left of one file. -/
def rest (plan : JoinPlan) (first : Bool) : (fuel : Nat) → Joining → Joining
  | 0, j => j
  | fuel + 1, j =>
    match (if first then j.left else j.right) with
    | [] => j
    | line :: _ =>
      let shows := if first then plan.alone1 else plan.alone2
      let j := if shows then
          j.write (if first then plan.row (some line) none else plan.row none (some line))
        else j
      rest plan first fuel (if first then j.advance1 plan else j.advance2 plan)

/-- Goes through both files. -/
def whole (plan : JoinPlan) (j : Joining) : Joining :=
  let fuel := j.left.length + j.right.length + 1
  rest plan false fuel (rest plan true fuel (together plan fuel j))

end Joining

/-- A field number of an option. -/
def fieldNumber (s : Text) : Work Nat := do
  if s ≠ [] ∧ s.all Char.isDigit ∧ ofDigits 10 s ≠ 0 then return ofDigits 10 s - 1
  else Work.fail 1 ("invalid field number: ".toList ++ quotedWord s)

/-- The parts of a line that an option names. -/
def joinFormat (s : Text) : Work (List (Nat × Nat)) := do
  let words := (Text.cutAt (fun c => c == ',' || c == ' ' || c == '\t') s).filter (· ≠ [])
  words.mapM fun (word : Text) => do
    match word with
    | ['0'] => return (0, 0)
    | '0' :: _ => Work.fail 1 ("invalid field specifier: ".toList ++ quotedWord word)
    | '1' :: '.' :: n => return (1, ← fieldNumber n)
    | '2' :: '.' :: n => return (2, ← fieldNumber n)
    | '1' :: _ | '2' :: _ => Work.fail 1 ("invalid field specifier: ".toList ++ quotedWord word)
    | _ => Work.fail 1 ("invalid file number in field spec: ".toList ++ quotedWord word)

/-- `join`: puts lines of two files together that have a field in common. -/
def join (args : List Text) : Work Nat := do
  let a ← arguments "1= 2= a= e= i:ignore-case j= o= t= v= z:zero-terminated -:check-order -:nocheck-order -:header"
    args 1 false
  let mut key1 := 0
  let mut key2 := 0
  let mut alone1 := false
  let mut alone2 := false
  let mut separator : Option Char := none
  let mut format : Option (List (Nat × Nat)) := none
  let mut whole := false
  for o in a.options do
    let value := o.value.getD []
    match o.key with
    | ['1'] => key1 := ← fieldNumber value
    | ['2'] => key2 := ← fieldNumber value
    | ['j'] =>
      key1 := ← fieldNumber value
      key2 := key1
    | ['a'] | ['v'] =>
      if value = ['1'] then alone1 := true
      else if value = ['2'] then alone2 := true
      else Work.fail 1 ("invalid field number: ".toList ++ quotedWord value)
    | ['t'] =>
      match value with
      | [] => separator := some '\n'
      | [c] => separator := some c
      | ['\\', '0'] => separator := some '\x00'
      | _ => Work.fail 1 ("multi-character tab ".toList ++ quotedWord value)
    | ['o'] =>
      if value = "auto".toList then whole := true
      else format := some ((format.getD []) ++ (← joinFormat value))
    | _ => pure ()
  let (p, q) ← twoOperands a
  let mark := if a.has "z" then '\x00' else '\n'
  let load (path : Text) : Work (List FieldLine) := do
    let lines ← linesOrFail mark path
    return lines.zipIdx.map fun (line, i) => ⟨i + 1, line, fieldsOfLine separator line⟩
  let left ← load p
  let right ← load q
  let widthOf (lines : List FieldLine) : Nat := (lines.head?.map fun l => l.fields.length).getD 0
  let check := OrderCheck.ofArguments a
  let plan : JoinPlan :=
    { key1, key2, fold := a.has "i", check, alone1, alone2, pairs := !a.has "v"
      between := separator.getD ' ', mark, filler := (a.value? "e").getD [], format
      counts := if whole then some (widthOf left, widthOf right) else none }
  let headed := a.has "header" && !(left.isEmpty && right.isEmpty)
  if headed then Work.out (plan.row left.head? right.head?)
  let start : Joining :=
    { left := if headed then left.drop 1 else left, right := if headed then right.drop 1 else right
      alone := false, told1 := false, told2 := false, events := [] }
  let mut wrong := false
  for event in (start.whole plan).events.reverse do
    match event with
    | .line _ text => Work.out text
    | .disorder file number text =>
      Work.complain ((if file = 1 then p else q) ++ ':' :: Text.ofNat number ++ ": is not sorted: ".toList
        ++ text)
      if check = .always then throw (.exited 1)
      wrong := true
  if wrong then Work.fail 1 "input is not in sorted order".toList
  return 0

end Manpage.Utility
