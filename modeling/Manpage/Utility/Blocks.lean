/-
# Blocks of bytes

`dd` copies blocks of bytes from one file to another, and `cmp` compares two files byte by byte.
-/
import Manpage.Utility.Decimal
import Manpage.Utility.Input

namespace Manpage.Utility

/-! ## 1. Copying -/

/-- A number of bytes in an operand: factors with letters, and an `x` between them. -/
def blockCount? (s : Text) : Option Nat :=
  (Text.cutAt (· == 'x') s).foldlM (fun n factor =>
    let factor := if factor.getLast? = some 'c' then factor.dropLast
      else if factor.getLast? = some 'w' then factor.dropLast else factor
    (countOf? factor).map (n * ·)) 1

/-- The operands that `dd` knows. -/
def blockOperands : List String :=
  ["if", "of", "ibs", "obs", "bs", "cbs", "skip", "iseek", "seek", "oseek", "count", "conv", "iflag", "oflag",
   "status"]

/-- How many blocks were whole, and how many were not. -/
def blockRecords (bytes size : Nat) : Text :=
  Text.ofNat (bytes / size) ++ '+' :: Text.ofNat (if bytes % size = 0 then 0 else 1)

/-- `dd`: copies blocks. -/
def dd (args : List Text) : Work Nat := do
  let args := args.filter (· ≠ "--".toList)
  let mut given : List (Text × Text) := []
  for arg in args do
    let name := arg.takeWhile (· != '=')
    if arg = "--help".toList ∨ arg = "--version".toList then
      answerAbout ⟨[⟨arg.drop 2, none⟩], []⟩ "[OPERAND]..." "9.4"
    if !arg.contains '=' || !(blockOperands.map String.toList).contains name then
      misuse 1 ("unrecognized operand ".toList ++ quotedName arg)
    given := (name, arg.drop (name.length + 1)) :: given
  let value? (name : String) : Option Text := given.lookup name.toList
  let number (names : List String) : Work (Option Nat) := do
    match names.findSome? value? with
    | none => return none
    | some s =>
      match blockCount? s with
      | some n => return some n
      | none => Work.fail 1 ("invalid number: ".toList ++ quotedName s)
  let size := (← number ["bs"]).getD ((← number ["ibs"]).getD 512)
  let outSize := (← number ["bs"]).getD ((← number ["obs"]).getD 512)
  if size = 0 ∨ outSize = 0 then
    Work.fail 1 ("invalid number: ".toList ++ quotedName ((value? "bs").getD ['0']))
  let skip := (← number ["skip", "iseek"]).getD 0
  let seek := (← number ["seek", "oseek"]).getD 0
  let count ← number ["count"]
  let changes := (Text.cutAt (· == ',') ((value? "conv").getD [])).map String.ofList
  let path := (value? "if").getD ['-']
  match ← Source.openPath path with
  | .error fault =>
    Work.fail 1 ("failed to open ".toList ++ quotedName path ++ ": ".toList ++ fault.wording)
  | .ok c =>
    let opened ← match count with
      | some n => Source.ofChannelFor c ((skip + n) * size)
      | none => Source.ofChannel c
    match opened with
    | .error fault =>
      Work.fail 1 ("error reading ".toList ++ quotedName path ++ ": ".toList ++ fault.wording)
    | .ok source =>
      let all := source.text.drop (skip * size)
      let copied := match count with
        | some n => all.take (n * size)
        | none => all
      let enough : Bool := match count with
        | some n => decide ((skip + n) * size ≤ source.text.length)
        | none => false
      let changed := if changes.contains "ucase" then copied.map Char.toUpper
        else if changes.contains "lcase" then copied.map Char.toLower
        else copied
      let changed := if changes.contains "swab" then swapped changed else changed
      let changed := if changes.contains "sync" then
          changed ++ List.replicate ((size - changed.length % size) % size) '\x00'
        else changed
      match value? "of" with
      | none => Work.outNow changed
      | some target =>
        let before ← match ← Work.readFile target with
          | .ok s => pure s
          | .error _ => pure []
        let start := before.take (seek * outSize)
        let start := start ++ List.replicate (seek * outSize - start.length) '\x00'
        let behind := if changes.contains "notrunc" then before.drop (seek * outSize + changed.length) else []
        match ← Work.writeFile target (start ++ changed ++ behind) false with
        | .ok () => pure ()
        | .error fault =>
          Work.fail 1 ("failed to open ".toList ++ quotedName target ++ ": ".toList ++ fault.wording)
      if enough then source.take ((skip * size) + copied.length) else source.finish
      if value? "status" ≠ some "none".toList then
        Work.errors (blockRecords copied.length size ++ " records in\n".toList
          ++ blockRecords changed.length outSize ++ " records out\n".toList)
        if value? "status" ≠ some "noxfer".toList then
          Work.errors (Text.ofNat changed.length ++ (if changed.length = 1 then " byte" else " bytes").toList
            ++ " copied, 0 s, Infinity B/s\n".toList)
      return 0
where
  /-- Every pair of bytes the other way round. -/
  swapped : Text → Text
    | a :: b :: rest => b :: a :: swapped rest
    | rest => rest

/-! ## 2. Comparing -/

/-- The places where two texts differ, with both bytes. -/
def differences : (n : Nat) → Text → Text → List (Nat × Char × Char)
  | n, a :: s, b :: t => if a = b then differences (n + 1) s t else (n, a, b) :: differences (n + 1) s t
  | _, _, _ => []

/-- A byte as a character that can be seen. -/
def visibleByte (c : Char) : Text :=
  let n := c.toNat
  let (front, n) : Text × Nat := if 128 ≤ n then (['M', '-'], n - 128) else ([], n)
  front ++ (if n < 32 then ['^', Char.ofNat (n + 64)] else if n = 127 then ['^', '?'] else [Char.ofNat n])

/-- `cmp`: compares two files. -/
def cmp (args : List Text) : Work Nat := do
  let usage {α : Type} (message : Text) : Work α := do
    Work.complain message
    Work.complain "Try 'cmp --help' for more information.".toList
    throw (.exited 2)
  let known := "b:print-bytes i:ignore-initial= l:verbose n:bytes= s:quiet -:silent -:help v:version"
  let a ← match Arguments.read (KnownOption.ofString known) false args with
    | .ok a => pure a
    | .error message => usage message
  answerAbout a "[OPTION]... FILE1 [FILE2 [SKIP1 [SKIP2]]]" "3.10"
  let silent := a.has "s" || a.has "silent"
  let (p, q, skips) ← match a.operands with
    | [] => usage "missing operand after 'cmp'".toList
    | [p] => pure (p, ['-'], [])
    | p :: q :: skips => pure (p, q, skips)
  let load (path : Text) : Work Text := do
    match ← Work.readFile path with
    | .ok s => return s
    | .error fault => Work.fail 2 (path ++ ": ".toList ++ fault.wording)
  let first ← load p
  let second ← if p = q then pure first else load q
  let initial := (a.value? "i").bind countOf?
  let cut (s : Text) (k : Nat) : Text :=
    let s := s.drop (initial.getD (((skips[k]?).bind countOf?).getD 0))
    match (a.value? "n").bind countOf? with
    | some n => s.take n
    | none => s
  let s := cut first 0
  let t := cut second 1
  let found := differences 1 s t
  let octal (c : Char) : Text := alignRight 3 (Nat.toDigits 8 c.toNat)
  let shorter := min s.length t.length
  match found with
  | (n, x, y) :: _ =>
    if silent then return 1
    if a.has "l" then
      let width := (Text.ofNat shorter).length
      for (n, x, y) in found do
        let row := alignRight width (Text.ofNat n) ++ ' ' :: octal x
        Work.outLine (if a.has "b" then row ++ ' ' :: alignLeft 4 (visibleByte x) ++ ' ' :: octal y ++ ' ' :: visibleByte y
          else row ++ ' ' :: octal y)
    else
      let line := ((s.take (n - 1)).filter (· == '\n')).length + 1
      let what := if a.has "b" then "byte " else "char "
      let bytes := if a.has "b" then
          " is ".toList ++ octal x ++ ' ' :: visibleByte x ++ ' ' :: octal y ++ ' ' :: visibleByte y
        else []
      Work.outLine (p ++ ' ' :: q ++ " differ: ".toList ++ what.toList ++ Text.ofNat n ++ ", line ".toList
        ++ Text.ofNat line ++ bytes)
      return 1
  | [] => pure ()
  if s.length = t.length then return if found.isEmpty then 0 else 1
  if !silent then
    let path := if s.length < t.length then p else q
    let same := s.take shorter
    if same.isEmpty then Work.complain ("EOF on ".toList ++ path ++ " which is empty".toList)
    else
      let lines := (same.filter (· == '\n')).length
      let behind := if a.has "l" then []
        else if same.getLast? = some '\n' then ", line ".toList ++ Text.ofNat lines
        else ", in line ".toList ++ Text.ofNat (lines + 1)
      Work.complain ("EOF on ".toList ++ path ++ " after byte ".toList ++ Text.ofNat shorter ++ behind)
  return 1

end Manpage.Utility
