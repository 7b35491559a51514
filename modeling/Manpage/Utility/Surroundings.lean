/-
# Commands about their surroundings

What a command knows of where it runs: the variables it was given, the user, the machine, and the
clock, which stands still.
-/
import Manpage.Utility.Input
import Manpage.Utility.Decimal

namespace Manpage.Utility

/-- `true`: does nothing, and succeeds. -/
def succeed (_ : List Text) : Work Nat := return 0

/-- `false`: does nothing, and fails. -/
def beFalse (_ : List Text) : Work Nat := return 1

/-! ## 1. Variables -/

/-- `printenv`: writes variables. -/
def printenv (args : List Text) : Work Nat := do
  let a ← arguments "0:null" args 2 true
  let ending : Text := if a.has "0" then [Char.ofNat 0] else ['\n']
  let env := (← get).env
  if a.operands.isEmpty then
    for (name, value) in env do Work.out (name ++ '=' :: value ++ ending)
    return 0
  else
    let mut fine := true
    for name in a.operands do
      match env.lookup name with
      | some value => if name.contains '=' then fine := false else Work.out (value ++ ending)
      | none => fine := false
    return statusOf fine

/-! ## 2. Users and machines -/

/-- `id`: tells the user. -/
def id (args : List Text) : Work Nat := do
  let a ← arguments "a g:group G:groups n:name r:real u:user z:zero Z:context" args 1 false
  for name in a.operands do
    if name ≠ "root".toList ∧ name ≠ ['0'] then Work.fail 1 (quotedName name ++ ": no such user".toList)
  if a.has "u" ∨ a.has "g" ∨ a.has "G" then
    Work.outLine (if a.has "n" then "root".toList else ['0'])
  else if a.has "n" ∨ a.has "r" then
    Work.fail 1 "printing only names or real IDs requires -u, -g, or -G".toList
  else Work.outLine "uid=0(root) gid=0(root) groups=0(root)".toList
  return 0

/-- Refuses operands. -/
def noOperands (a : Arguments) : Work Unit := do
  match a.operands with
  | [] => pure ()
  | extra :: _ => misuse 1 ("extra operand ".toList ++ quotedName extra)

/-- `logname`: nobody has logged in. -/
def logname (args : List Text) : Work Nat := do
  noOperands (← arguments "" args 1 false)
  Work.fail 1 "no login name".toList

/-- `whoami`: tells the name of the user. -/
def whoami (args : List Text) : Work Nat := do
  noOperands (← arguments "" args 1 false)
  Work.outLine "root".toList
  return 0

/-- `uname`: tells the system. -/
def uname (args : List Text) : Work Nat := do
  let a ← arguments
    "a:all s:kernel-name n:nodename r:kernel-release v:kernel-version m:machine p:processor i:hardware-platform o:operating-system"
    args 1 false
  noOperands a
  let parts : List (String × String) :=
    [("s", "Linux"), ("n", "localhost"), ("r", "6.0.0"), ("v", "#1 SMP"), ("m", "x86_64"),
     ("o", "GNU/Linux")]
  let chosen := parts.filter fun part => a.has part.1 || a.has "a"
  let chosen := if chosen.isEmpty then parts.take 1 else chosen
  Work.outLine (Text.join [' '] (chosen.map fun part => part.2.toList))
  return 0

/-- `arch`: tells the kind of machine. -/
def arch (args : List Text) : Work Nat := do
  noOperands (← arguments "" args 1 false)
  Work.outLine "x86_64".toList
  return 0

/-- `hostname`: tells the name of the machine. -/
def hostname (_ : List Text) : Work Nat := do
  Work.outLine "localhost".toList
  return 0

/-- `nproc`: tells how many processors there are. -/
def nproc (args : List Text) : Work Nat := do
  noOperands (← arguments "-:all -:ignore=" args 1 false)
  Work.outLine ['1']
  return 0

/-- `tty`: there is no terminal. -/
def tty (args : List Text) : Work Nat := do
  let a ← arguments "s:silent -:quiet" args 2 false
  if !(a.has "s" || a.has "quiet") then Work.outLine "not a tty".toList
  return 1

/-- `pwd`: tells the working directory. -/
def workingDirectory (args : List Text) : Work Nat := do
  let a ← arguments "L:logical P:physical" args 1 false
  if !a.operands.isEmpty then Work.complain "ignoring non-option arguments".toList
  Work.outLine (← get).cwdPath
  return 0

/-! ## 3. Time -/

/-- Whether a text is a length of time. -/
def isInterval (s : Text) : Bool :=
  match takeNumber s with
  | some (⟨negative, .finite _⟩, rest) =>
    !negative && (rest == [] || ["s", "m", "h", "d"].contains (String.ofList rest))
  | some (⟨false, .infinite⟩, rest) => rest == []
  | _ => false

/-- `sleep`: waits, which takes no time here. -/
def sleep (args : List Text) : Work Nat := do
  let a ← arguments "" args 1 true
  if a.operands.isEmpty then misuse 1 "missing operand".toList
  match a.operands.filter fun s => !isInterval s with
  | [] => return 0
  | bad =>
    for s in bad do Work.complain ("invalid time interval ".toList ++ quotedName s)
    hint
    return 1

end Manpage.Utility
