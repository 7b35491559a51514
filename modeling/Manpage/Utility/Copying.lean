/-
# Commands that copy lines

Copying files to the output as they are, from the last line to the first, with each line turned round, and
to several files at once.
-/
import Manpage.Regex.Reader
import Manpage.Utility.Input

namespace Manpage.Utility

/-- How lines are shown while they are copied. -/
structure Showing where
  number : Bool
  numberFilled : Bool
  squeeze : Bool
  ends : Bool
  tabs : Bool
  controls : Bool

namespace Showing

/-- Nothing is changed. -/
def plain (s : Showing) : Bool :=
  !(s.number || s.numberFilled || s.squeeze || s.ends || s.tabs || s.controls)

/-- A character that does not print. -/
def visible (s : Showing) (c : Char) : Text :=
  let n := c.toNat
  if c = '\t' then (if s.tabs then "^I".toList else [c])
  else if c = '\n' then (if s.ends then ['$', '\n'] else [c])
  else if !s.controls then [c]
  else
    let low (n : Nat) : Text :=
      if n < 32 then ['^', Char.ofNat (n + 64)] else if n = 127 then ['^', '?'] else [Char.ofNat n]
    if n < 128 then low n else 'M' :: '-' :: low (n - 128)

end Showing

/-- What is remembered between lines: the number of the last one, how many empty ones came last, and
whether a line has been begun. -/
structure Copied where
  lines : Nat
  empties : Nat
  inside : Bool

/-- Shows a line. -/
def showLine (s : Showing) (state : Copied) (line : Text) : Text × Copied :=
  let isEmpty := line == ['\n'] && !state.inside
  let empties := if isEmpty then state.empties + 1 else 0
  let inside := line.getLast? != some '\n'
  if s.squeeze && isEmpty && 1 < empties then ([], { state with empties })
  else
    let numbered := !state.inside && (if s.numberFilled then !isEmpty else s.number)
    let n := if numbered then state.lines + 1 else state.lines
    let front := if numbered then alignRight 6 (Text.ofNat n) ++ ['\t'] else []
    (front ++ line.flatMap s.visible, ⟨n, empties, inside⟩)

/-- Shows lines. -/
def showLines (s : Showing) : Copied → List Text → Text × Copied
  | state, [] => ([], state)
  | state, line :: rest =>
    let (shown, state) := showLine s state line
    let (more, state) := showLines s state rest
    (shown ++ more, state)

/-- Writes the same text over and over, until nobody reads it any more. -/
def writeForever (piece : Text) : (fuel : Nat) → Work Unit
  | 0 => pure ()
  | fuel + 1 => do
    Work.outNow piece
    writeForever piece fuel

/-- `cat`: copies files. -/
def cat (args : List Text) : Work Nat := do
  let a ← arguments ("A:show-all b:number-nonblank e E:show-ends n:number s:squeeze-blank t"
    ++ " T:show-tabs u v:show-nonprinting") args 1 false
  let all := a.has "A"
  let s : Showing :=
    { number := a.has "n", numberFilled := a.has "b", squeeze := a.has "s",
      ends := all || a.has "E" || a.has "e", tabs := all || a.has "T" || a.has "t",
      controls := all || a.has "v" || a.has "e" || a.has "t" }
  let paths := if a.operands.isEmpty then [['-']] else a.operands
  let mut fine := true
  let mut state : Copied := ⟨0, 0, false⟩
  for path in paths do
    match ← Source.openPath path with
    | .error fault =>
      Work.complain (faultText path fault)
      fine := false
    | .ok c =>
      match ← Source.ofChannel c with
      | .error fault =>
        Work.complain (faultText path fault)
        fine := false
      | .ok source =>
        if s.plain then Work.outNow source.text
        else
          let (shown, next) := showLines s state (cutLines source.text)
          state := next
          Work.outNow shown
        match (← getThe System).channel c with
        | .zeros | .full => writeForever source.text 100000
        | _ => source.finish
  return statusOf fine

/-- The places of separators in a text: the last one first, and each of those before it in what is left. -/
def separatorsOf (r : Regex) (s : Text) : List (Nat × Nat) :=
  let subject : Regex.Subject := ⟨s.toArray, ⟨false, true⟩, true⟩
  let found := (List.range s.length).filterMap fun p =>
    (Regex.matchAt r subject p).map fun m => (m.first, m.last)
  (found.foldr (fun (first, last) (kept : List (Nat × Nat)) =>
    match kept with
    | (next, _) :: _ => if last ≤ next then (first, last) :: kept else kept
    | [] => [(first, last)]) [])

/-- `tac`: copies lines from the last to the first. -/
def tac (args : List Text) : Work Nat := do
  let a ← arguments "b:before r:regex s:separator=" args 1 false
  let mark := (a.value? "s").getD ['\n']
  let mark := if mark.isEmpty then ['\x00'] else mark
  let expression ← if !a.has "r" then pure none else
    match Regex.read .basic mark with
    | .ok r => pure (some r)
    | .error message => Work.fail 1 message
  let (found, fine) ← readAll a.operands fun path fault =>
    match fault with
    | .isDirectory => shownName path ++ ": read error: Invalid argument".toList
    | _ => "failed to open ".toList ++ quotedName path ++ " for reading: ".toList ++ fault.wording
  for (_, s) in found do
    let stretches := match expression with
      | some r => separatorsOf r s
      | none => separatorsOf (Regex.sequence (mark.map Regex.char)) s
    -- a piece goes from a separator to the next, with one of the two
    let places := stretches.map fun (first, last) => if a.has "b" then first else last
    let bounds := 0 :: places ++ [s.length]
    let pieces := (bounds.zip (bounds.drop 1)).map fun (first, last) => (s.drop first).take (last - first)
    Work.out pieces.reverse.flatten
  return statusOf fine

/-- `rev`: turns each line round. -/
def rev (args : List Text) : Work Nat := do
  let a ← arguments "0:zero" args 1 false
  let (found, fine) ← readAll a.operands fun path fault =>
    "cannot open ".toList ++ path ++ ": ".toList ++ fault.wording
  for (_, s) in found do
    for line in cutLines s do
      let body := bare line
      Work.out (body.reverse ++ line.drop body.length)
  return statusOf fine

/-- `tee`: copies the input to the output and to files. -/
def tee (args : List Text) : Work Nat := do
  let a ← arguments "a:append i:ignore-interrupts p -:output-error?" args 1 false
  let append := a.has "a"
  let mut fine := true
  let mut paths : List Text := []
  for path in a.operands do
    match ← Work.writeFile path [] append with
    | .ok () => paths := paths ++ [path]
    | .error fault =>
      Work.complain (faultText path fault)
      fine := false
  match ← Work.channelOf? 0 with
  | none => return 1
  | some c =>
    match ← Source.ofChannel c with
    | .error fault =>
      Work.complain ("read error: ".toList ++ fault.wording)
      return 1
    | .ok source =>
      for path in paths do
        discard (Work.writeFile path source.text true)
      Work.outNow source.text
      source.finish
      return statusOf fine

end Manpage.Utility
