/-
# The beginning and the end of a text

Copying the first or the last lines or bytes of files, or all but so many of them.
-/
import Manpage.Utility.Input

namespace Manpage.Utility

/-- How much is copied: a number of lines or of bytes, counted from the end that the command is
about, or all but so many. -/
structure Amount where
  bytes : Bool
  other : Bool
  count : Nat
deriving DecidableEq, Repr

/-- The heading of a file among several. -/
def heading (path : Text) (first : Bool) : Text :=
  let name := if path = ['-'] then "standard input".toList else path
  (if first then [] else ['\n']) ++ "==> ".toList ++ name ++ " <==\n".toList

/-- The beginning of a text, and whether all of it had to be seen for that. -/
def beginning (amount : Amount) (mark : Char) (s : Text) : Text × Bool :=
  if amount.bytes then
    if amount.other then (s.take (s.length - amount.count), true)
    else (s.take amount.count, s.length < amount.count)
  else
    let records := cutRecords mark s
    if amount.other then ((records.take (records.length - amount.count)).flatten, true)
    else
      let taken := records.take amount.count
      (taken.flatten, taken.length < amount.count || taken.getLast?.any fun r => r.getLast? != some mark)

/-- An old form of the arguments, a number with a hyphen in front. -/
def oldCount? (arg : Text) : Option Amount :=
  match arg with
  | '-' :: c :: rest =>
    if c.isDigit then
      let digits := (c :: rest).takeWhile Char.isDigit
      let letters := (c :: rest).drop digits.length
      if letters.all fun l => "bkmclqvz".toList.contains l then
        let unit := if letters.contains 'b' then 512 else if letters.contains 'k' then 1024
          else if letters.contains 'm' then 1048576 else 1
        (countOf? digits).map fun n =>
          ⟨letters.contains 'c' || letters.contains 'b' || letters.contains 'k' || letters.contains 'm',
            false, n * unit⟩
      else none
    else none
  | _ => none

/-- The amount that an option asks for; `turned` is the sign that asks for the others. -/
def amountOf (bytes : Bool) (turned : Char) (value : Text) : Work Amount := do
  let (other, digits) := match value with
    | '-' :: rest => (turned == '-', rest)
    | '+' :: rest => (turned == '+', rest)
    | rest => (false, rest)
  match countOf? digits with
  | some n => return ⟨bytes, other, n⟩
  | none =>
    Work.fail 1 ("invalid number of ".toList ++ (if bytes then "bytes" else "lines").toList ++ ": ".toList
      ++ quotedWord value)

/-- The amount and the arguments, from an old form in front or from options. -/
def amountAmong (args : List Text) (turned : Char) : Work (Amount × Arguments) := do
  let known := "c:bytes= n:lines= q:quiet q:silent v:verbose z:zero-terminated f:follow? F s= -:pid="
  match args with
  | first :: rest =>
    match oldCount? first with
    | some amount =>
      let a ← arguments known rest 1 false
      return (amount, a)
    | none => fromOptions known
  | [] => fromOptions known
where
  /-- The last of the options for an amount. -/
  fromOptions (known : String) : Work (Amount × Arguments) := do
    let a ← arguments known args 1 false
    match (a.options.filter fun o => o.key == ['n'] || o.key == ['c']).getLast? with
    | some o =>
      let amount ← amountOf (o.key == ['c']) turned (o.value.getD [])
      return (amount, a)
    | none => return (⟨false, false, 10⟩, a)

/-- Whether headings are written. -/
def wantsHeadings (a : Arguments) : Bool :=
  match a.lastOf? ["q", "v"] with
  | some ['q'] => false
  | some _ => true
  | none => 1 < a.operands.length

/-- Goes through files, with headings if wanted; `need` is how many bytes are enough. -/
def eachWithHeading (a : Arguments) (need : Option Nat) (copy : Source → Work Unit) : Work Nat := do
  let paths := if a.operands.isEmpty then [['-']] else a.operands
  let headed := wantsHeadings a
  let mut first := true
  let mut fine := true
  for path in paths do
    match ← Source.openPath path with
    | .error fault =>
      Work.complain ("cannot open ".toList ++ quotedName path ++ " for reading: ".toList ++ fault.wording)
      fine := false
    | .ok c =>
      if headed then Work.out (heading path first)
      first := false
      let opened ← match need with
        | some n => Source.ofChannelFor c n
        | none => Source.ofChannel c
      match opened with
      | .error fault =>
        Work.complain ("error reading ".toList ++ quotedName path ++ ": ".toList ++ fault.wording)
        fine := false
      | .ok source => copy source
  return statusOf fine

/-- `head`: copies the beginnings of files. -/
def head (args : List Text) : Work Nat := do
  let (amount, a) ← amountAmong args '-'
  let mark := if a.has "z" then '\x00' else '\n'
  let need := if amount.bytes && !amount.other then some amount.count else none
  eachWithHeading a need fun source => do
    let (s, all) := beginning amount mark source.text
    Work.out s
    if all then source.finish else source.take s.length

/-- The end of a text. -/
def ending (amount : Amount) (mark : Char) (s : Text) : Text :=
  if amount.bytes then
    if amount.other then s.drop (amount.count - 1) else s.drop (s.length - amount.count)
  else
    let records := cutRecords mark s
    if amount.other then (records.drop (amount.count - 1)).flatten
    else (records.drop (records.length - amount.count)).flatten

/-- `tail`: copies the ends of files. -/
def tail (args : List Text) : Work Nat := do
  let (amount, a) ← match args with
    | ('+' :: c :: digits) :: rest =>
      if c.isDigit && digits.all Char.isDigit && rest.length ≤ 1 then
        let a ← arguments "" rest 1 false
        pure (⟨false, true, (countOf? (c :: digits)).getD 1⟩, a)
      else amountAmong args '+'
    | _ => amountAmong args '+'
  let mark := if a.has "z" then '\x00' else '\n'
  eachWithHeading a none fun source => do
    source.finish
    Work.out (ending amount mark source.text)

end Manpage.Utility
